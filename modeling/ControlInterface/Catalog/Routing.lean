import ControlInterface.Catalog.Transport

/-!
# Which handler method is called

A run of the dispatcher with a handler that writes down its calls: one call of the
handler method the request names if the params are accepted, none otherwise, and the
response that goes with it.
-/

namespace ControlInterface

open Serde ControlHandler

variable {m : Type → Type} [Monad m]

/-- The response carries the id of the request, and one of result and error. -/
def Answers (id : RequestId) (response : JsonRpcResponse) : Prop :=
  response.id = id ∧ (response.result.isSome ↔ response.error.isNone)

theorem answers_respond {R : Type} [Serialize R] (id : RequestId)
    (outcome : Except ControlError R) : Answers id (respond id outcome) := by
  cases outcome <;> simp [Answers, respond, JsonRpcResponse.success, JsonRpcResponse.failure]

/-- The dispatcher on a request, with the calls it makes. -/
def recordedRun (env : Environment) (handler : ControlHandler m) (request : JsonRpcRequest) :
    m (JsonRpcResponse × List HandlerCall) :=
  ((recorded handler).dispatch env request).run []

section Runs

variable [LawfulMonad m] (env : Environment) (handler : ControlHandler m)
  (request : JsonRpcRequest)

omit [LawfulMonad m] in
theorem recordedRun_uncatalogued (uncatalogued : Uncatalogued request.method) :
    recordedRun env handler request =
      pure (.failure request.id (unknownMethod request.method), []) := by
  rw [recordedRun, dispatch_uncatalogued env _ request uncatalogued]
  rfl

variable {H : HandlerMethod} (named : H.method.name = request.method)
include named

theorem recordedRun_refused {error : ControlError}
    (refused : H.accept env request.params = .error error) :
    recordedRun env handler request = pure (.failure request.id error, []) := by
  rw [recordedRun, dispatch_refused env _ request named refused]
  rfl

theorem recordedRun_accepted {params : H.Params}
    (accepted : H.accept env request.params = .ok params) :
    recordedRun env handler request =
      (fun outcome => (respond request.id outcome, [⟨H, params⟩])) <$>
        (H.serve handler params).run := by
  rw [recordedRun, dispatch_accepted env _ request named accepted, StateT.run_map,
    run_serve_recorded, Functor.map_map]
  rfl

end Runs

/-- A request is routed by the bindings of the catalog: the handler method of the call
type that is bound to the named method is called, once, with the accepted params; or
they are refused, or the name is not in the catalog, and no handler method is called. -/
inductive Routed (env : Environment) (handler : ControlHandler m) (request : JsonRpcRequest) : Prop
  | served (C : CallType) (params : C.Params) (named : C.method.name = request.method)
      (accepted : C.accept env request.params = .ok params)
      (run : recordedRun env handler request =
        (fun outcome => (respond request.id outcome, [⟨.bound C, params⟩])) <$>
          (C.serve handler params).run)
      (answers : ∀ outcome : Except ControlError C.Output,
        Answers request.id (respond request.id outcome))
  | refused (C : CallType) (error : ControlError) (named : C.method.name = request.method)
      (refused : C.accept env request.params = .error error) (isRefusal : IsRefusal error)
      (run : recordedRun env handler request = pure (.failure request.id error, []))
  | unknown (uncatalogued : Uncatalogued request.method)
      (run : recordedRun env handler request =
        pure (.failure request.id (unknownMethod request.method), []))

/-- No call type is bound to the method that lists the full nodes. -/
theorem not_bound_chiaPeersList (C : CallType) : C.method.name ≠ "control.chiaPeers.list" := by
  intro named
  have same : HandlerMethod.bound C = .chiaPeersList := HandlerMethod.name_injective named
  cases same

/-- Every request is routed by the bindings, except one for the method that has none. -/
theorem routed_iff [LawfulMonad m] (env : Environment) (handler : ControlHandler m)
    (request : JsonRpcRequest) :
    Routed env handler request ↔ request.method ≠ "control.chiaPeers.list" := by
  constructor
  · intro routed listed
    cases routed with
    | served C _ named => exact not_bound_chiaPeersList C (named.trans listed)
    | refused C _ named => exact not_bound_chiaPeersList C (named.trans listed)
    | unknown uncatalogued => exact uncatalogued .chiaPeersList listed.symm
  · intro bound
    by_cases uncatalogued : Uncatalogued request.method
    · exact .unknown uncatalogued (recordedRun_uncatalogued env handler request uncatalogued)
    · rcases exists_handlerMethod uncatalogued with ⟨H, named⟩
      cases H with
      | chiaPeersList => exact absurd named.symm bound
      | bound C =>
          cases outcome : C.accept env request.params with
          | ok params =>
              exact .served C params named outcome
                (recordedRun_accepted (H := .bound C) env handler request named outcome)
                (answers_respond request.id)
          | error error =>
              exact .refused C error named outcome ((C.binding.node env).isRefusal outcome)
                (recordedRun_refused (H := .bound C) env handler request named outcome)

theorem routed_status :
    Routed plainText idleNode ⟨"2.0", .number 1, "control.status", .null⟩ ↔
      "control.status" ≠ "control.chiaPeers.list" :=
  routed_iff plainText idleNode ⟨"2.0", .number 1, "control.status", .null⟩

/-- The request to list the full nodes calls a handler method that no binding names. -/
theorem chiaPeersList_not_routed :
    let request : JsonRpcRequest := ⟨"2.0", .number 1, "control.chiaPeers.list", .null⟩
    recordedRun plainText idleNode request =
        (fun outcome => (respond request.id outcome, [⟨.chiaPeersList, ()⟩])) <$>
          idleNode.chiaPeersList.run ∧
      ¬Routed plainText idleNode request := by
  intro request
  refine ⟨recordedRun_accepted (H := .chiaPeersList) plainText idleNode request rfl rfl, ?_⟩
  intro routed
  cases routed with
  | served C _ named => exact not_bound_chiaPeersList C named
  | refused C _ named => exact not_bound_chiaPeersList C named
  | unknown uncatalogued => exact uncatalogued .chiaPeersList rfl

end ControlInterface
