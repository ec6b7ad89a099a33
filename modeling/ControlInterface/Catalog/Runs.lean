import ControlInterface.Catalog.Interpretation

/-!
# Whole runs of a node

Requests served one after the other.  Requests that come to no call leave no trace in a
run, and the others are as good as requests that are built of typed calls: what arrives as
JSON makes a node do nothing that a typed call does not, but for the listing of its full
nodes, for which the catalog has no call type.
-/

namespace ControlInterface

open Serde ControlHandler

/-! ## Runs -/

section Runs

variable {m : Type → Type} [Monad m] (env : Environment) (handler : ControlHandler m)

/-- The responses of a node to requests it serves one after the other. -/
def serveAll : List JsonRpcRequest → m (List JsonRpcResponse)
  | [] => pure []
  | request :: rest => do
      let response ← handler.dispatch env request
      return response :: (← serveAll rest)

/-- The request comes to a call. -/
def called (request : JsonRpcRequest) : Bool := (interpret env request).isOk

/-- The responses to requests, from the responses to those of them that come to a call. -/
def weave : List JsonRpcRequest → List JsonRpcResponse → List JsonRpcResponse
  | [], _ => []
  | request :: rest, answers =>
      match interpret env request with
      | .error error => .failure request.id error :: weave rest answers
      | .ok _ => answers.take 1 ++ weave rest (answers.drop 1)

variable {env}

theorem called_of_ok {request : JsonRpcRequest} {call : HandlerCall}
    (found : interpret env request = .ok call) : called env request = true := by
  rw [called, found]
  rfl

theorem called_of_error {request : JsonRpcRequest} {error : ControlError}
    (refused : interpret env request = .error error) : called env request = false := by
  rw [called, refused]
  rfl

variable [LawfulMonad m]

/-- Requests that are alike one by one have the same run. -/
theorem serveAll_congr {left right : List JsonRpcRequest}
    (alike : List.Forall₂ (Alike env) left right) :
    serveAll env handler left = serveAll env handler right := by
  induction alike with
  | nil => rfl
  | cons first _ ih => rw [serveAll, serveAll, first.dispatch_eq env handler, ih]

/-- A request that comes to no call is answered without any effect. -/
theorem dispatch_of_error {request : JsonRpcRequest} {error : ControlError}
    (refused : interpret env request = .error error) :
    handler.dispatch env request = pure (.failure request.id error) := by
  rw [dispatch_eq_perform, refused, perform, map_pure]
  rfl

/-- Requests that come to no call can be left out of a run: the effects are the same, and
so are the responses to the other ones. -/
theorem serveAll_eq_weave (requests : List JsonRpcRequest) :
    serveAll env handler requests =
      weave env requests <$> serveAll env handler (requests.filter (called env)) := by
  induction requests with
  | nil => exact (map_pure (weave env []) []).symm
  | cons request rest ih =>
      cases meaning : interpret env request with
      | error error =>
          rw [List.filter_cons_of_neg (by rw [called_of_error meaning]; exact nofun), serveAll,
            dispatch_of_error handler meaning, pure_bind, ih, bind_pure_comp, Functor.map_map]
          simp only [weave, meaning]
      | ok call =>
          rw [List.filter_cons_of_pos (called_of_ok meaning), serveAll, serveAll, map_bind, ih]
          apply bind_congr
          intro response
          rw [bind_pure_comp, bind_pure_comp, Functor.map_map, Functor.map_map]
          simp only [weave, meaning, List.take_succ_cons, List.take_zero, List.drop_succ_cons,
            List.drop_zero, List.singleton_append]

/-- A run writes down the calls its requests come to, in their order. -/
theorem run_serveAll_recorded (requests : List JsonRpcRequest) (calls : List HandlerCall) :
    (serveAll env (recorded handler) requests).run calls =
      (fun responses => (responses, calls ++ requests.flatMap (callsOf env))) <$>
        serveAll env handler requests := by
  induction requests generalizing calls with
  | nil =>
      show pure ([], calls) = _
      rw [serveAll, map_pure, List.flatMap_nil, List.append_nil]
  | cons request rest ih =>
      rw [serveAll, serveAll, StateT.run_bind, run_dispatch_recorded, bind_map_left, map_bind]
      apply bind_congr
      intro response
      rw [StateT.run_bind, ih, bind_map_left, map_bind, List.flatMap_cons, ← List.append_assoc]
      apply bind_congr
      intro responses
      show pure (response :: responses, _) = _ <$> (pure (response :: responses) : m _)
      rw [map_pure]

/-- Requests that come to no call write down nothing. -/
theorem flatMap_callsOf_filter (requests : List JsonRpcRequest) :
    (requests.filter (called env)).flatMap (callsOf env) = requests.flatMap (callsOf env) := by
  induction requests with
  | nil => rfl
  | cons request rest ih =>
      rw [List.filter_cons, List.flatMap_cons, ← ih]
      cases meaning : interpret env request with
      | error error =>
          have none : callsOf env request = [] := by
            rw [callsOf, meaning]
            rfl
          rw [called_of_error meaning, none]
          rfl
      | ok call =>
          rw [called_of_ok meaning]
          rfl

theorem flatMap_callsOf_congr {left right : List JsonRpcRequest}
    (alike : List.Forall₂ (Alike env) left right) :
    left.flatMap (callsOf env) = right.flatMap (callsOf env) := by
  induction alike with
  | nil => rfl
  | cons first _ ih =>
      rw [List.flatMap_cons, List.flatMap_cons, ih, callsOf, callsOf, first.2]

end Runs

/-! ## Requests of calls -/

/-- The request to list the full nodes, for which there is no call type. -/
def listChiaPeers (id : RequestId) : JsonRpcRequest :=
  .new id ControlMethod.chiaPeersList.name (.object .empty)

/-- A request that is built of a valid call, or the one to list the full nodes, which no
typed call builds. -/
inductive Built (env : Environment) : JsonRpcRequest → Prop
  | call (id : RequestId) (C : CallType) (params : C.Params)
      (valid : C.validated env params = .ok params) : Built env (buildRequest id params)
  | listChiaPeers (id : RequestId) : Built env (listChiaPeers id)

section Built

variable {env : Environment}

/-- A valid call is interpreted as itself. -/
theorem interpret_buildRequest (id : RequestId) {C : CallType} {params : C.Params}
    (valid : C.validated env params = .ok params) :
    interpret env (buildRequest id params) = .ok ⟨.bound C, params⟩ := by
  have accepted : C.accept env (buildRequest id params).params = .ok params := by
    rw [buildRequest_params env id C params]
    exact (C.binding.node env).accept_toValue.mpr valid
  rw [@interpret_catalogued env (buildRequest id params) (.bound C) rfl]
  exact congrArg (Except.map _) accepted

/-- What a client has of a valid call is what arrives of the outcome of the handler method. -/
theorem exchange_of_valid {m : Type → Type} [Monad m] [LawfulMonad m] (handler : ControlHandler m)
    (id : RequestId) {C : CallType} {call : C.Params} (valid : C.validated env call = .ok call) :
    exchange env handler id C call = received env id C <$> (C.serve handler call).run := by
  have served : handler.dispatch env (buildRequest id call) =
      respond id <$> (C.serve handler call).run :=
    dispatch_accepted (H := .bound C) env handler (buildRequest id call) rfl
      (interpret_eq_ok (interpret_buildRequest id valid)).2
  rw [exchange, served, bind_pure_comp, Functor.map_map]
  rfl

/-- A request that comes to a call is like one that is built. -/
theorem exists_built {request : JsonRpcRequest} (isCall : called env request = true) :
    ∃ built, Alike env request built ∧ Built env built := by
  rcases interpret_cases env request with ⟨error, refused⟩ | ⟨H, params, named, accepted, found⟩
  · rw [called_of_error refused] at isCall
    cases isCall
  · cases H with
    | bound C =>
        have valid : C.validated env params = .ok params :=
          (C.binding.node env).validated_of_accept accepted
        refine ⟨buildRequest request.id params, ⟨rfl, ?_⟩, .call request.id C params valid⟩
        rw [found, interpret_buildRequest request.id valid]
    | chiaPeersList =>
        refine ⟨listChiaPeers request.id, ⟨rfl, ?_⟩, .listChiaPeers request.id⟩
        rw [found, @interpret_catalogued env (listChiaPeers _) .chiaPeersList rfl]
        rfl

theorem exists_allBuilt {requests : List JsonRpcRequest}
    (areCalls : ∀ request ∈ requests, called env request = true) :
    ∃ built, List.Forall₂ (Alike env) requests built ∧ ∀ request ∈ built, Built env request := by
  induction requests with
  | nil => exact ⟨[], .nil, nofun⟩
  | cons request rest ih =>
      rw [List.forall_mem_cons] at areCalls
      rcases exists_built areCalls.1 with ⟨first, alike, isBuilt⟩
      rcases ih areCalls.2 with ⟨others, allAlike, allBuilt⟩
      exact ⟨first :: others, .cons alike allAlike, List.forall_mem_cons.mpr ⟨isBuilt, allBuilt⟩⟩

end Built

/-- Whatever requests arrive, a run of a node is its run on requests that are built of valid
calls or list the full nodes, one for each request that comes to a call and in their order;
the other requests have fixed responses and no effect. -/
theorem run_refines_calls (env : Environment) (requests : List JsonRpcRequest) :
    ∃ built : List JsonRpcRequest,
      List.Forall₂ (Alike env) (requests.filter (called env)) built ∧
        (∀ request ∈ built, Built env request) ∧
        ∀ (m : Type → Type) [Monad m] [LawfulMonad m] (handler : ControlHandler m),
          serveAll env handler requests = weave env requests <$> serveAll env handler built ∧
            ∀ calls, (serveAll env (recorded handler) requests).run calls =
              (fun responses => (responses, calls ++ built.flatMap (callsOf env))) <$>
                serveAll env handler requests := by
  have areCalls : ∀ request ∈ requests.filter (called env), called env request = true :=
    fun request member => (List.mem_filter.mp member).2
  rcases exists_allBuilt areCalls with ⟨built, alike, allBuilt⟩
  refine ⟨built, alike, allBuilt, ?_⟩
  intro m _ _ handler
  constructor
  · rw [serveAll_eq_weave, serveAll_congr handler alike]
  · intro calls
    rw [run_serveAll_recorded, ← flatMap_callsOf_filter, flatMap_callsOf_congr alike]

end ControlInterface
