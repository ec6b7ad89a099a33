import ControlInterface.Catalog.Dispatch
import Mathlib.Control.Traversable.Instances

/-!
# Calls and results on the way

A call on its way from the client to the node, and the outcome of the handler
method on its way back: what each side reads of what the other one wrote.  The two sides
exchange JSON values, not their text: it is assumed that whatever prints and parses the text
between them gives back the value that was written.  A parser need not do so for every
floating-point number, and may refuse values that are nested deeply.
-/

namespace ControlInterface

open Serde ControlHandler

/-! ## From the client to the node -/

section Request

variable (env : Environment) (id : RequestId) (C : CallType) (call : C.Params)

include env in
/-- The params of a request are the call itself: no call is written as `null`. -/
theorem buildRequest_params : (buildRequest id call).params = toValue call := by
  rcases (C.binding.node env).toValue_object call with ⟨map, object⟩
  have written : toValue call = .object map := object
  show paramsValue call = toValue call
  rw [paramsValue, written, Json.view_object]

/-- The call types whose params have a validating constructor. -/
def CallType.validating : List CallType :=
  [.setMirrorAdvertiseUrls, .walletCoins, .walletCoinById, .walletCoinSpend,
    .walletCoinsByParent, .walletWatch, .walletUnwatch, .walletReservationsReserve, .spendsList,
    .mirrorBondStates, .collateralMarginSet]

theorem CallType.validated_of_not_mem (plain : C ∉ CallType.validating) :
    C.validated env call = .ok call := by
  cases C <;> first | rfl | exact absurd (by decide) plain

/-- Every call arrives as it was sent: the request names the method of the call type,
its params are an object, and the node decodes and validates that object to the call
itself, or to what the validating constructor of its type makes of it, and refuses
it when that does. -/
theorem CallType.request_transport :
    (buildRequest id call).id = id ∧
      (buildRequest id call).method = C.method.name ∧
      (∃ map, (buildRequest id call).params = .object map) ∧
      (C ∉ CallType.validating → C.accept env (buildRequest id call).params = .ok call) ∧
      (∀ result, C.accept env (buildRequest id call).params = .ok result ↔
        C.validated env call = .ok result) ∧
      (∀ error, C.validated env call = .error error →
        ∃ refusal, IsRefusal refusal ∧
          C.accept env (buildRequest id call).params = .error refusal) := by
  have sent := buildRequest_params env id C call
  have accepted (result : C.Params) :
      C.accept env (buildRequest id call).params = .ok result ↔
        C.validated env call = .ok result := by
    rw [sent]
    exact (C.binding.node env).accept_toValue
  refine ⟨rfl, rfl, ?_, ?_, accepted, ?_⟩
  · rw [sent]
    exact (C.binding.node env).toValue_object call
  · intro plain
    exact (accepted call).mpr (C.validated_of_not_mem env call plain)
  · intro error refused
    cases outcome : C.accept env (buildRequest id call).params with
    | ok result =>
        have validated := (accepted result).mp outcome
        rw [refused] at validated
        cases validated
    | error refusal => exact ⟨refusal, (C.binding.node env).isRefusal outcome, rfl⟩

end Request

/-! ## A node to try things on -/

/-- Printers for text that needs no escaping, and no urls. -/
def plainText : Environment where
  formatter := ⟨fun text => "\"" ++ text ++ "\"", fun _ => "0.0"⟩
  urlParse _ := none

/-- A node that supports no method. -/
def idleNode : ControlHandler Id := ofServe fun _ _ => throw (.of .notSupported "not supported")

/-! ## From the node to the client -/

section Response

variable (env : Environment)

/-- What a client makes of an outcome of a handler method, once the response has been
written and read again. -/
def received (id : RequestId) (C : CallType) (outcome : Except ControlError C.Output) :
    Except DeError (RequestId × Except ControlError C.Output) := do
  let response : JsonRpcResponse ← fromValue (toValue (respond id outcome))
  return (response.id, parseResponse env C.Params response)

/-- What a client has of a call: build the request, let the node dispatch it, write the
response and read it again, and parse it. -/
def exchange {m : Type → Type} [Monad m] (handler : ControlHandler m) (id : RequestId)
    (C : CallType) (call : C.Params) :
    m (Except DeError (RequestId × Except ControlError C.Output)) := do
  let response ← handler.dispatch env (buildRequest id call)
  return do
    let response : JsonRpcResponse ← fromValue (toValue response)
    return (response.id, parseResponse env C.Params response)

/-- The error a client makes of a response that has neither member. -/
def malformedResponse : ControlError :=
  .of .controlError "malformed JSON-RPC response: neither result nor error present"

variable (id : RequestId) (C : CallType)

/-- An error arrives as it was sent. -/
theorem received_error (error : ControlError) :
    received env id C (.error error) = .ok (id, .error error) := by
  rw [received, JsonRpcResponse.fromValue_toValue]
  rfl

/-- A result that is not written as `null` arrives as it was sent. -/
theorem received_ok {result : C.Output} (present : toValue result ≠ .null) :
    received env id C (.ok result) = .ok (id, .ok result) := by
  rw [received, JsonRpcResponse.fromValue_toValue]
  have read : parseResponse env C.Params
      { respond id (.ok result : Except ControlError C.Output) with
        result := (some (toValue result)).bind JsonRpcResponse.present } = .ok result := by
    rw [parseResponse, Option.bind_some, JsonRpcResponse.present_of_ne_null present]
    show mapErr _ (fromValue (toValue result)) = _
    rw [fromValue_toValue]
    rfl
  exact congrArg (fun outcome => Except.ok (id, outcome)) read

/-- A result that is written as `null` does not arrive: it is read as the lack of one. -/
theorem received_null {result : C.Output} (null : toValue result = .null) :
    received env id C (.ok result) = .ok (id, .error malformedResponse) := by
  rw [received, JsonRpcResponse.fromValue_toValue]
  simp only [respond, null]
  rfl

theorem received_eq_iff (outcome : Except ControlError C.Output) :
    received env id C outcome = .ok (id, outcome) ↔
      ∀ result, outcome = .ok result → toValue result ≠ .null := by
  cases outcome with
  | error error => simp [received_error]
  | ok result =>
      by_cases null : toValue result = .null
      · simp [received_null env id C null, null]
      · simp [received_ok env id C null, null]

variable {m : Type → Type} [Monad m] [LawfulMonad m] (handler : ControlHandler m)

/-- A call that the node accepts is served by the handler method of its call type, whose
outcome reaches the client; what reaches the client is that outcome, unless it is a
result that is written as `null`. -/
theorem exchange_faithful_iff {call params : C.Params}
    (accepted : C.accept env (buildRequest id call).params = .ok params) :
    exchange env handler id C call = received env id C <$> (C.serve handler params).run ∧
      ∀ outcome, received env id C outcome = .ok (id, outcome) ↔
        ∀ result, outcome = .ok result → toValue result ≠ .null := by
  have served : handler.dispatch env (buildRequest id call) =
      respond id <$> (C.serve handler params).run :=
    dispatch_accepted (H := .bound C) env handler (buildRequest id call) rfl accepted
  refine ⟨?_, received_eq_iff env id C⟩
  rw [exchange, served, bind_pure_comp, Functor.map_map]
  rfl

theorem exchange_faithful_setCap :
    exchange plainText idleNode (.number 7) .setCap ⟨1024⟩ =
        received plainText (.number 7) .setCap <$>
          (CallType.serve idleNode .setCap ⟨1024⟩).run ∧
      ∀ outcome, received plainText (.number 7) .setCap outcome = .ok (.number 7, outcome) ↔
        ∀ result, outcome = .ok result → toValue result ≠ .null :=
  exchange_faithful_iff plainText (.number 7) .setCap idleNode
    ((NodeParams.decoded plainText SetCapParams).accept_toValue.mpr rfl)

/-- A node whose updater answers `null` does answer, and its client reads an error. -/
theorem exchange_updaterStatus_null :
    let node : ControlHandler Id := { idleNode with updaterStatus := pure .null }
    (CallType.serve node .updaterStatus ⟨⟩).run = .ok .null ∧
      exchange plainText node (.number 1) .updaterStatus ⟨⟩ =
        .ok (.number 1, .error malformedResponse) ∧
      exchange plainText node (.number 1) .updaterStatus ⟨⟩ ≠ .ok (.number 1, .ok .null) := by
  intro node
  have lost : exchange plainText node (.number 1) .updaterStatus ⟨⟩ =
      .ok (.number 1, .error malformedResponse) :=
    received_null plainText (.number 1) .updaterStatus rfl
  refine ⟨rfl, lost, ?_⟩
  rw [lost]
  exact nofun

end Response

end ControlInterface
