import ControlInterface.Catalog.Routing

/-!
# What requests mean

A request comes to a call of a handler method with its params, or to an error without any
call.  That is all a node does with it: whole runs of the dispatcher are runs of the calls
the requests come to, and two requests are served alike by every node exactly when they
come to the same.
-/

namespace ControlInterface

open Serde ControlHandler

/-! ## Meaning -/

/-- What a request comes to: a call of a handler method, or an error. -/
def interpret (env : Environment) (request : JsonRpcRequest) : Except ControlError HandlerCall :=
  match ControlMethod.fromName request.method with
  | none => .error (unknownMethod request.method)
  | some method =>
      ((HandlerMethod.ofMethod method).accept env request.params).map
        fun params => ⟨HandlerMethod.ofMethod method, params⟩

/-- Make the call, if there is one. -/
def ControlHandler.perform {m : Type → Type} [Monad m] (handler : ControlHandler m) :
    Except ControlError HandlerCall → m (Except ControlError Json)
  | .error error => pure (.error error)
  | .ok ⟨H, params⟩ => (H.serve handler params >>= encode).run

/-- The requests have the same id and come to the same. -/
def Alike (env : Environment) (left right : JsonRpcRequest) : Prop :=
  left.id = right.id ∧ interpret env left = interpret env right

section Interpretation

variable {env : Environment} {request : JsonRpcRequest}

theorem interpret_uncatalogued (uncatalogued : Uncatalogued request.method) :
    interpret env request = .error (unknownMethod request.method) := by
  rw [interpret, fromName_eq_none uncatalogued]

theorem interpret_catalogued {H : HandlerMethod} (named : H.method.name = request.method) :
    interpret env request = (H.accept env request.params).map fun params => ⟨H, params⟩ := by
  rw [interpret, ← named, ControlMethod.fromName_name]
  exact congrArg
    (fun H' : HandlerMethod => (H'.accept env request.params).map fun params =>
      (⟨H', params⟩ : HandlerCall)) (HandlerMethod.ofMethod_method H)

/-- The ways a request is interpreted. -/
theorem interpret_cases (env : Environment) (request : JsonRpcRequest) :
    (∃ error, interpret env request = .error error) ∨
      ∃ H : HandlerMethod, ∃ params : H.Params, H.method.name = request.method ∧
        H.accept env request.params = .ok params ∧ interpret env request = .ok ⟨H, params⟩ := by
  by_cases uncatalogued : Uncatalogued request.method
  · exact .inl ⟨_, interpret_uncatalogued uncatalogued⟩
  · rcases exists_handlerMethod uncatalogued with ⟨H, named⟩
    have interpreted := @interpret_catalogued env request H named
    cases outcome : H.accept env request.params with
    | error error =>
        rw [outcome] at interpreted
        exact .inl ⟨error, interpreted⟩
    | ok params =>
        rw [outcome] at interpreted
        exact .inr ⟨H, params, named, outcome, interpreted⟩

/-- A request with params that its method does not accept comes to an error. -/
theorem interpret_unaccepted {H : HandlerMethod} (named : H.method.name = request.method)
    (unaccepted : ∀ params, H.accept env request.params ≠ .ok params) :
    ∃ error, interpret env request = .error error := by
  rw [interpret_catalogued named]
  cases outcome : H.accept env request.params with
  | error error => exact ⟨error, rfl⟩
  | ok params => exact absurd outcome (unaccepted params)

/-- A call a request comes to is one of the method it names, with accepted params. -/
theorem interpret_eq_ok {H : HandlerMethod} {params : H.Params}
    (interpreted : interpret env request = .ok ⟨H, params⟩) :
    H.method.name = request.method ∧ H.accept env request.params = .ok params := by
  rcases interpret_cases env request with ⟨error, failed⟩ | ⟨H', params', named, accepted, found⟩
  · rw [interpreted] at failed
    cases failed
  · rw [interpreted] at found
    cases found
    exact ⟨named, accepted⟩

end Interpretation

/-! ## One request -/

section Requests

variable {m : Type → Type} [Monad m] [LawfulMonad m] (env : Environment)
  (handler : ControlHandler m)

/-- Dispatching a request is making the call it comes to, and answering with its id. -/
theorem dispatch_eq_perform (request : JsonRpcRequest) :
    handler.dispatch env request =
      respond request.id <$> handler.perform (interpret env request) := by
  by_cases uncatalogued : Uncatalogued request.method
  · rw [dispatch_uncatalogued env handler request uncatalogued,
      interpret_uncatalogued uncatalogued, perform, map_pure]
    rfl
  · rcases exists_handlerMethod uncatalogued with ⟨H, named⟩
    rw [interpret_catalogued named]
    cases outcome : H.accept env request.params with
    | error error =>
        rw [dispatch_refused env handler request named outcome]
        show _ = respond request.id <$> (pure (.error error) : m (Except ControlError Json))
        rw [map_pure]
        rfl
    | ok params =>
        rw [dispatch_accepted env handler request named outcome]
        show _ = respond request.id <$> (H.serve handler params >>= encode).run
        rw [ExceptT.run_bind, map_bind, map_eq_pure_bind]
        apply bind_congr
        intro answer
        cases answer with
        | ok result =>
            show _ = respond request.id <$> (pure (.ok (toValue result)) : m (Except _ Json))
            rw [map_pure]
            rfl
        | error error =>
            show _ = respond request.id <$> (pure (.error error) : m (Except _ Json))
            rw [map_pure]
            rfl

theorem Alike.dispatch_eq {left right : JsonRpcRequest} (alike : Alike env left right) :
    handler.dispatch env left = handler.dispatch env right := by
  rw [dispatch_eq_perform, dispatch_eq_perform, alike.1, alike.2]

/-- The calls a request comes to: one, or none. -/
def callsOf (request : JsonRpcRequest) : List HandlerCall := (interpret env request).toOption.toList

/-- The dispatcher writes down the call a request comes to. -/
theorem run_dispatch_recorded (request : JsonRpcRequest) (calls : List HandlerCall) :
    ((recorded handler).dispatch env request).run calls =
      (fun response => (response, calls ++ callsOf env request)) <$>
        handler.dispatch env request := by
  rw [callsOf]
  rcases interpret_cases env request with ⟨error, refused⟩ | ⟨H, params, named, accepted, found⟩
  · rw [dispatch_eq_perform, dispatch_eq_perform, refused]
    simp [perform, Except.toOption]
  · rw [dispatch_accepted env _ request named accepted, StateT.run_map, run_serve_recorded,
      dispatch_accepted env handler request named accepted, Functor.map_map, Functor.map_map, found]
    rfl

end Requests

/-- Two requests are served alike by every node exactly when they have the same id and come
to the same call with the same params, or to the same error. -/
theorem alike_iff (env : Environment) (left right : JsonRpcRequest) :
    Alike env left right ↔
      ∀ (m : Type → Type) [Monad m] [LawfulMonad m] (handler : ControlHandler m),
        handler.dispatch env left = handler.dispatch env right := by
  constructor
  · intro alike m _ _ handler
    exact alike.dispatch_eq env handler
  · intro same
    -- A node that supports nothing and writes down its calls tells them apart.
    have runs : recordedRun env (m := Id) idleNode left = recordedRun env idleNode right :=
      congrArg (fun answer : StateT (List HandlerCall) Id JsonRpcResponse => answer.run [])
        (same (StateT (List HandlerCall) Id) (recorded idleNode))
    have answers : idleNode.dispatch env left = idleNode.dispatch env right := same Id idleNode
    rw [recordedRun, recordedRun, run_dispatch_recorded, run_dispatch_recorded] at runs
    have calls : callsOf env left = callsOf env right := congrArg Prod.snd runs
    rw [callsOf, callsOf] at calls
    rw [dispatch_eq_perform, dispatch_eq_perform] at answers
    have responses : respond left.id (idleNode.perform (interpret env left)) =
        respond right.id (idleNode.perform (interpret env right)) := answers
    have id (request : JsonRpcRequest) (outcome : Except ControlError Json) :
        (respond request.id outcome).id = request.id := by
      cases outcome <;> rfl
    have ids : left.id = right.id := by
      rw [← id left (idleNode.perform (interpret env left)), responses, id]
    refine ⟨ids, ?_⟩
    cases leftMeans : interpret env left with
    | ok leftCall =>
        cases rightMeans : interpret env right with
        | ok rightCall =>
            rw [leftMeans, rightMeans] at calls
            exact congrArg Except.ok (List.cons.inj calls).1
        | error error =>
            rw [leftMeans, rightMeans] at calls
            cases calls
    | error leftError =>
        cases rightMeans : interpret env right with
        | ok rightCall =>
            rw [leftMeans, rightMeans] at calls
            cases calls
        | error rightError =>
            rw [leftMeans, rightMeans] at responses
            have same : some leftError = some rightError :=
              congrArg JsonRpcResponse.error responses
            exact congrArg Except.error (Option.some.inj same)

end ControlInterface
