import ControlInterface.Catalog.Sessions

/-!
# Nodes that pass calls on

A node that serves each call by being the client of another node for it.  However many such
nodes stand in a row, what the first one answers is what the last one answers, but for
results that are written as `null`.
-/

namespace ControlInterface

open Serde ControlHandler

/-! ## The node in between -/

section Forwarder

variable {m : Type → Type} [Monad m] (env : Environment) (handler : ControlHandler m)

/-- What a client has of the request to list the full nodes.  There is no call type to build
it or to parse the response, so the client does both by hand. -/
def exchangeList (id : RequestId) :
    m (Except DeError (RequestId × Except ControlError ChiaPeersListResult)) := do
  let response ← handler.dispatch env (listChiaPeers id)
  return do
    let response : JsonRpcResponse ← fromValue (toValue response)
    return (response.id, do
      let value ← response.intoResult
      mapErr (fun error => .of .controlError (error.display env.formatter)) (fromValue value))

/-- What a node passes on of what it has of a call. -/
def passedOn {R : Type} :
    Except DeError (RequestId × Except ControlError R) → Except ControlError R
  | .ok (_, outcome) => outcome
  | .error error => .error (.of .controlError (error.display env.formatter))

/-- Serve a call by making it at another node. -/
def forward (id : RequestId) : (H : HandlerMethod) → H.Params → m (Except ControlError H.Output)
  | .bound C, params => passedOn env <$> exchange env handler id C params
  | .chiaPeersList, _ => passedOn env <$> exchangeList env handler id

/-- A node that makes each call it is asked for at another node, under an id of its own. -/
def forwarder (ids : HandlerCall → RequestId) : ControlHandler m :=
  ofServe fun H params => ExceptT.mk (forward env handler (ids ⟨H, params⟩) H params)

end Forwarder

/-! ## What arrives -/

/-- What arrives of a response: a `null` result does not. -/
def arrivingResponse (response : JsonRpcResponse) : JsonRpcResponse :=
  match response.result with
  | some value => if value.isNull then .failure response.id malformedResponse else response
  | none => response

theorem arrivingResponse_idem (response : JsonRpcResponse) :
    arrivingResponse (arrivingResponse response) = arrivingResponse response := by
  rcases response with ⟨jsonrpc, id, result, error⟩
  cases result with
  | none => rfl
  | some value =>
      cases null : value.isNull with
      | true =>
          simp only [arrivingResponse, null, if_true]
          rfl
      | false => simp only [arrivingResponse, null, Bool.false_eq_true, if_false]

theorem arrivingResponse_eq_self_iff (response : JsonRpcResponse) :
    arrivingResponse response = response ↔ response.result ≠ some .null := by
  rcases response with ⟨jsonrpc, id, result, error⟩
  cases result with
  | none => exact iff_of_true rfl nofun
  | some value =>
      by_cases null : value = .null
      · subst null
        refine iff_of_false (fun same => ?_) fun present => present rfl
        cases congrArg JsonRpcResponse.result same
      · have isValue : value.isNull = false := Bool.eq_false_iff.mpr (mt Json.isNull_iff.mp null)
        refine iff_of_true ?_ fun isNull => null (Option.some.inj isNull)
        simp only [arrivingResponse, isValue, Bool.false_eq_true, if_false]

theorem arrivingResponse_respond (id : RequestId) (C : CallType)
    (outcome : Except ControlError C.Output) :
    arrivingResponse (respond id outcome) = respond id (arriving C outcome) := by
  cases outcome with
  | error error => rfl
  | ok result =>
      show (if (toValue result).isNull then _ else _) = respond id (if _ then _ else _)
      split <;> rfl

section Transparency

variable {m : Type → Type} [Monad m] [LawfulMonad m] {env : Environment}
  (handler : ControlHandler m) (ids : HandlerCall → RequestId)

/-- A client has the outcome of the request to list the full nodes as it is. -/
theorem exchangeList_eq (id : RequestId) :
    exchangeList env handler id =
      (fun outcome => .ok (id, outcome)) <$>
        (HandlerMethod.serve handler .chiaPeersList ()).run := by
  have served : handler.dispatch env (listChiaPeers id) =
      respond id <$> (HandlerMethod.serve handler .chiaPeersList ()).run :=
    dispatch_accepted (H := .chiaPeersList) env handler (listChiaPeers id) rfl rfl
  rw [exchangeList, served, bind_pure_comp, Functor.map_map]
  congr 1
  funext outcome
  rw [JsonRpcResponse.fromValue_toValue]
  cases outcome with
  | error error => rfl
  | ok result =>
      have read : fromValue (toValue result) = .ok result := fromValue_toValue result
      show Except.ok (id, mapErr _ (fromValue (toValue result))) = _
      rw [read]
      rfl

/-- A call that is passed on comes to what arrives of it. -/
theorem respond_forwarder (id : RequestId) {H : HandlerMethod} {params : H.Params}
    {request : JsonRpcRequest} (accepted : H.accept env request.params = .ok params) :
    respond id <$> (H.serve (forwarder env handler ids) params).run =
      (fun outcome => arrivingResponse (respond id outcome)) <$> (H.serve handler params).run := by
  rw [forwarder, serve_ofServe, ExceptT.run_mk]
  cases H with
  | bound C =>
      have valid : C.validated env params = .ok params :=
        (C.binding.node env).validated_of_accept accepted
      show respond id <$> passedOn env <$> exchange env handler _ C params = _
      rw [exchange_of_valid handler _ valid, Functor.map_map, Functor.map_map]
      congr 1
      funext outcome
      rw [received_eq_arriving, arrivingResponse_respond]
      rfl
  | chiaPeersList =>
      show respond id <$> passedOn env <$> exchangeList env handler _ = _
      rw [exchangeList_eq handler, Functor.map_map, Functor.map_map]
      congr 1
      funext outcome
      cases outcome <;> rfl

/-- A node that passes calls on answers a request with what arrives of the response. -/
theorem dispatch_forwarder (request : JsonRpcRequest) :
    (forwarder env handler ids).dispatch env request =
      arrivingResponse <$> handler.dispatch env request := by
  rcases interpret_cases env request with ⟨error, refused⟩ | ⟨H, params, named, accepted, _⟩
  · rw [dispatch_of_error _ refused, dispatch_of_error _ refused, map_pure]
    rfl
  · rw [dispatch_accepted env _ request named accepted,
      dispatch_accepted env _ request named accepted, Functor.map_map,
      respond_forwarder handler ids request.id accepted]

theorem serveAll_forwarder (requests : List JsonRpcRequest) :
    serveAll env (forwarder env handler ids) requests =
      List.map arrivingResponse <$> serveAll env handler requests := by
  induction requests with
  | nil =>
      show pure [] = List.map arrivingResponse <$> (pure [] : m (List JsonRpcResponse))
      rw [map_pure]
      rfl
  | cons request rest ih =>
      rw [serveAll, serveAll, dispatch_forwarder, ih, bind_map_left, map_bind]
      apply bind_congr
      intro response
      rw [bind_map_left, map_bind]
      apply bind_congr
      intro responses
      rw [map_pure, List.map_cons]

/-! ## Nodes in a row -/

/-- Nodes in a row, each of which passes its calls on to the next one, before a last one that
answers them. -/
def chain (env : Environment) (handler : ControlHandler m) :
    List (HandlerCall → RequestId) → ControlHandler m
  | [] => handler
  | ids :: rest => forwarder env (chain env handler rest) ids

theorem serveAll_chain (first : HandlerCall → RequestId) (rest : List (HandlerCall → RequestId))
    (requests : List JsonRpcRequest) :
    serveAll env (chain env handler (first :: rest)) requests =
      List.map arrivingResponse <$> serveAll env handler requests := by
  induction rest generalizing first with
  | nil => exact serveAll_forwarder handler first requests
  | cons second rest ih =>
      rw [chain, serveAll_forwarder, ih, Functor.map_map]
      congr 1
      funext responses
      rw [List.map_map]
      exact List.map_congr_left fun response _ => arrivingResponse_idem response

end Transparency

/-- Requests to a row of nodes that pass their calls on are answered as the last node answers
them, save that a `null` result becomes the error for a malformed response; and that node gets
exactly the calls that the requests come to, in their order, however long the row is. -/
theorem chain_transparent {m : Type → Type} [Monad m] [LawfulMonad m] (env : Environment)
    (handler : ControlHandler m) (first : HandlerCall → RequestId)
    (rest : List (HandlerCall → RequestId)) (requests : List JsonRpcRequest) :
    serveAll env (chain env handler (first :: rest)) requests =
        List.map arrivingResponse <$> serveAll env handler requests ∧
      (∀ calls, (serveAll env (chain env (recorded handler) (first :: rest)) requests).run calls =
        (fun responses => (responses.map arrivingResponse, calls ++ requests.flatMap (callsOf env)))
          <$> serveAll env handler requests) ∧
      ∀ response, arrivingResponse response = response ↔ response.result ≠ some .null := by
  refine ⟨serveAll_chain handler first rest requests, ?_, arrivingResponse_eq_self_iff⟩
  intro calls
  rw [serveAll_chain (recorded handler), StateT.run_map, run_serveAll_recorded, Functor.map_map]

theorem chain_transparent_twoHops :
    let hops : List (HandlerCall → RequestId) := [fun _ => .string "first", fun _ => .number 2]
    let requests : List JsonRpcRequest :=
      [buildRequest (.number 7) (⟨1024⟩ : SetCapParams), listChiaPeers (.number 8)]
    serveAll plainText (chain plainText idleNode hops) requests =
        List.map arrivingResponse <$> serveAll plainText idleNode requests ∧
      (∀ calls, (serveAll plainText (chain plainText (recorded idleNode) hops) requests).run calls =
        (fun responses =>
          (responses.map arrivingResponse, calls ++ requests.flatMap (callsOf plainText)))
          <$> serveAll plainText idleNode requests) ∧
      ∀ response, arrivingResponse response = response ↔ response.result ≠ some .null :=
  chain_transparent plainText idleNode _ _ _

end ControlInterface
