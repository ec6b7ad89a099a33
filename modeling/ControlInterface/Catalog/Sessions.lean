import ControlInterface.Catalog.Runs
import ControlInterface.InFlight

/-!
# Clients with many calls in flight

A client with any number of calls outstanding at one node, over a network that delivers
messages in any order.  Messages are the JSON of requests and responses, which the network
hands on as it is; the client tells responses apart by their ids, which outstanding calls do
not share.
-/

namespace ControlInterface

open Serde ControlHandler InFlight

/-! ## Calls and their results -/

/-- A call of the catalog. -/
abbrev TypedCall : Type := (C : CallType) × C.Params

/-- What a client gets of a call. -/
abbrev Outcome (call : TypedCall) : Type := Except ControlError call.1.Output

/-- What a client gets of an outcome of a handler method: a result that is written as
`null` does not arrive. -/
def arriving (C : CallType) : Except ControlError C.Output → Except ControlError C.Output
  | .ok result => if (toValue result).isNull then .error malformedResponse else .ok result
  | .error error => .error error

theorem received_eq_arriving (env : Environment) (id : RequestId) (C : CallType)
    (outcome : Except ControlError C.Output) :
    received env id C outcome = .ok (id, arriving C outcome) := by
  cases outcome with
  | error error => exact received_error env id C error
  | ok result =>
      by_cases null : toValue result = .null
      · rw [received_null env id C null, arriving, if_pos (Json.isNull_iff.mpr null)]
      · rw [received_ok env id C null, arriving, if_neg (mt Json.isNull_iff.mp null)]

section Sessions

variable {σ : Type} (env : Environment) (handler : ControlHandler (StateM σ))

/-- A call is carried out: its params are validated, and the handler method of its call
type is called with them; or they are refused, and nothing happens.  The outcome is what
arrives of the one that the handler method has. -/
inductive Performs : (call : TypedCall) → σ → Outcome call → σ → Prop
  | served {C : CallType} {given params : C.Params} {state next : σ}
      {outcome : Except ControlError C.Output} (valid : C.validated env given = .ok params)
      (answered : ((C.serve handler params).run).run state = (outcome, next)) :
      Performs ⟨C, given⟩ state (arriving C outcome) next
  | refused {C : CallType} {given : C.Params} {state : σ} {error refusal : ControlError}
      (invalid : C.validated env given = .error error) (isRefusal : IsRefusal refusal) :
      Performs ⟨C, given⟩ state (.error refusal) state

/-- The messages between clients of the catalog and a node.  A message is the JSON value
itself; no text is written or read. -/
def jsonWire : Wire RequestId TypedCall Outcome Json Json σ where
  request id call := toValue (buildRequest id call.2)
  serves message state reply next :=
    ∃ request : JsonRpcRequest, fromValue message = .ok request ∧
      ∃ response, (handler.dispatch env request).run state = (response, next) ∧
        reply = toValue response
  address reply :=
    match (fromValue reply : Except DeError JsonRpcResponse) with
    | .ok response => some response.id
    | .error _ => none
  read call reply :=
    match (fromValue reply : Except DeError JsonRpcResponse) with
    | .ok response => some (parseResponse env call.1.Params response)
    | .error _ => none

/-- The response to a call carries what arrives of the outcome. -/
theorem jsonWire_carries (id : RequestId) {C : CallType} (params : C.Params)
    (outcome : Except ControlError C.Output) :
    (jsonWire env handler).Carries (id, ⟨⟨C, params⟩, arriving C outcome⟩)
      (toValue (respond id outcome)) := by
  have received := received_eq_arriving env id C outcome
  rw [ControlInterface.received] at received
  rcases bind_eq_ok.mp received with ⟨response, read, parsed⟩
  have pair : (response.id, parseResponse env C.Params response) = (id, arriving C outcome) :=
    Except.ok.inj parsed
  rcases Prod.mk.inj pair with ⟨sameId, sameOutcome⟩
  constructor
  · show (match (fromValue _ : Except DeError JsonRpcResponse) with
      | .ok response => some response.id
      | .error _ => none) = some id
    rw [read]
    exact congrArg some sameId
  · show (match (fromValue _ : Except DeError JsonRpcResponse) with
      | .ok response => some (parseResponse env C.Params response)
      | .error _ => none) = some (arriving C outcome)
    rw [read]
    exact congrArg some sameOutcome

/-- A node that serves the request of a call carries out the call. -/
theorem jsonWire_faithful : (jsonWire env handler).Faithful (Performs env handler) where
  carries := by
    intro id call state reply next served
    rcases call with ⟨C, given⟩
    rcases served with ⟨request, read, response, dispatched, rfl⟩
    have sent : (fromValue (toValue (buildRequest id given)) : Except DeError JsonRpcRequest) =
        .ok (buildRequest id given) := fromValue_toValue _
    obtain rfl : buildRequest id given = request := Except.ok.inj (sent.symm.trans read)
    have written := buildRequest_params env id C given
    cases checked : C.validated env given with
    | ok params =>
        have accepted : C.accept env (buildRequest id given).params = .ok params := by
          rw [written]
          exact (C.binding.node env).accept_toValue.mpr checked
        rw [dispatch_accepted (H := .bound C) env handler _ rfl accepted, StateT.run_map]
          at dispatched
        rcases Prod.mk.inj dispatched with ⟨rfl, rfl⟩
        exact ⟨_, jsonWire_carries env handler id given _, .served checked rfl⟩
    | error error =>
        cases outcome : C.accept env (buildRequest id given).params with
        | ok params =>
            rw [written] at outcome
            have valid := (C.binding.node env).accept_toValue.mp outcome
            rw [show (C.binding.node env).validated given = _ from checked] at valid
            cases valid
        | error refusal =>
            rw [dispatch_refused (H := .bound C) env handler _ rfl outcome] at dispatched
            rcases Prod.mk.inj dispatched with ⟨rfl, rfl⟩
            exact ⟨.error refusal, jsonWire_carries env handler id given (.error refusal),
              .refused checked ((C.binding.node env).isRefusal outcome)⟩
  total := by
    intro id call state
    exact ⟨_, _, buildRequest id call.2, fromValue_toValue _, _, rfl, rfl⟩

/-! ## Every run -/

variable {start : σ}

end Sessions

/-! ## A node to try things on -/

def notSupported : ControlError := .of .notSupported "not supported"

/-- A node that counts the calls and supports none of them. -/
def countingNode : ControlHandler (StateM Nat) :=
  ofServe fun _ _ => do
    modify (· + 1)
    throw notSupported

/-- A call to set the cache cap. -/
def setCapCall : TypedCall := ⟨.setCap, (⟨1024⟩ : SetCapParams)⟩

/-- A call to clear the cache. -/
def clearCall : TypedCall := ⟨.cacheClear, (⟨⟩ : CacheClearParams)⟩

/-- Two calls were issued, and none is served. -/
def bothAsked : InFlight.State RequestId TypedCall Outcome Json Json Nat :=
  ((State.initial 0).send (jsonWire plainText countingNode) (.number 7) setCapCall).send
    (jsonWire plainText countingNode) (.number 8) clearCall

/-- The second call is served before the first one. -/
def overtaken : InFlight.State RequestId TypedCall Outcome Json Json Nat :=
  { bothAsked with
    node := 1
    requests := {toValue (buildRequest (.number 7) setCapCall.2)}
    replies := {toValue (JsonRpcResponse.failure (.number 8) notSupported)} }

/-- The response to the second call has arrived, and the first one is still outstanding. -/
def answered : InFlight.State RequestId TypedCall Outcome Json Json Nat :=
  { overtaken with
    replies := 0
    pending := {(.number 7, setCapCall)}
    delivered := {(.number 8, ⟨clearCall, .error notSupported⟩)} }

end ControlInterface
