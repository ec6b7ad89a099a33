import ControlInterface.Catalog.Routing

/-!
# Members that one side does not know

A request with members the node does not know, and a result with members the client
does not know or without some it does: how the other side reads them.
-/

namespace ControlInterface

open Serde ControlHandler

/-! ## Undeclared members of a request -/

section Requests

variable {m : Type → Type} [Monad m] [LawfulMonad m] (env : Environment)
  (handler : ControlHandler m)

/-- Whether params are accepted, and as what, depends on their declared members alone. -/
theorem HandlerMethod.accept_insert (H : HandlerMethod) {key : String}
    (undeclared : key ∉ H.declared env) (map : JsonMap) (value : Json) :
    H.accept env (.object (map.insert key value)) = H.accept env (.object map) := by
  cases H with
  | chiaPeersList => rfl
  | bound C =>
      apply (C.binding.node env).accept_congr
      intro other declared
      have different : other ≠ key := fun same => undeclared (same ▸ declared)
      rw [BTreeMap.get?_insert, if_neg different]

/-- Requests whose params are accepted alike are dispatched alike. -/
theorem dispatch_congr (request : JsonRpcRequest) {left right : Json}
    (same : ∀ H : HandlerMethod, H.method.name = request.method →
      H.accept env left = H.accept env right) :
    handler.dispatch env { request with params := left } =
      handler.dispatch env { request with params := right } := by
  by_cases uncatalogued : Uncatalogued request.method
  · rw [dispatch_uncatalogued env handler { request with params := left } uncatalogued,
      dispatch_uncatalogued env handler { request with params := right } uncatalogued]
  · rcases exists_handlerMethod uncatalogued with ⟨H, named⟩
    rw [dispatch_catalogued env handler { request with params := left } named,
      dispatch_catalogued env handler { request with params := right } named, serveJson,
      serveJson, same H named]

/-- A member that no params type of the named method declares is without effect: the
params are accepted with it as they are without it, the same calls are made with the
same arguments, and the response is the same. -/
theorem dispatch_insert (request : JsonRpcRequest) {key : String}
    (undeclared : ∀ H : HandlerMethod, H.method.name = request.method → key ∉ H.declared env)
    (map : JsonMap) (value : Json) :
    (∀ H : HandlerMethod, H.method.name = request.method →
        H.accept env (.object (map.insert key value)) = H.accept env (.object map)) ∧
      handler.dispatch env { request with params := .object (map.insert key value) } =
        handler.dispatch env { request with params := .object map } ∧
      recordedRun env handler { request with params := .object (map.insert key value) } =
        recordedRun env handler { request with params := .object map } := by
  have same (H : HandlerMethod) (named : H.method.name = request.method) :
      H.accept env (.object (map.insert key value)) = H.accept env (.object map) :=
    H.accept_insert env (undeclared H named) map value
  refine ⟨same, ?_, ?_⟩
  · exact dispatch_congr env handler request same
  · exact congrArg (StateT.run · []) (dispatch_congr env (recorded handler) request same)

/-- The token of a caller rides along with a request that is served. -/
theorem dispatch_insert_token :
    let request : JsonRpcRequest := ⟨"2.0", .number 1, "control.cache.setCap", .null⟩
    let params := BTreeMap.empty.insert "cap_bytes" (toValue (1024 : UInt64))
    let tokened := params.insert "_control_token" (.string "f00d")
    (∀ H : HandlerMethod, H.method.name = request.method →
        H.accept plainText (.object tokened) = H.accept plainText (.object params)) ∧
      idleNode.dispatch plainText { request with params := .object tokened } =
        idleNode.dispatch plainText { request with params := .object params } ∧
      recordedRun plainText idleNode { request with params := .object tokened } =
        recordedRun plainText idleNode { request with params := .object params } ∧
      (recordedRun plainText idleNode { request with params := .object params }).2 =
        [⟨.bound .setCap, (⟨1024⟩ : SetCapParams)⟩] := by
  intro request params tokened
  have undeclared : ∀ H : HandlerMethod, H.method.name = request.method →
      "_control_token" ∉ H.declared plainText := by
    intro H named
    obtain rfl : H = .bound .setCap := HandlerMethod.name_injective named
    decide
  rcases dispatch_insert plainText idleNode request undeclared params (.string "f00d") with
    ⟨accepted, dispatched, called⟩
  exact ⟨accepted, dispatched, called, rfl⟩

end Requests

/-! ## Undeclared and missing members of a result -/

section Results

variable {H : HandlerMethod} [object : OpenObject H.Output]

/-- In every typed result but one, a field whose absence has a meaning means by it that
there is no value. -/
theorem quiet_of_typed (typed : H.shape = .typed object) (other : H ≠ .bound .subscribe) :
    object.quiet = true := by
  cases H with
  | chiaPeersList =>
      obtain rfl := ResultShape.typed.inj typed
      rfl
  | bound C =>
      cases C with
      | subscribe => exact absurd rfl other
      | updaterStatus | updaterResume | updaterCheckNow | pairingList | peerStatus | setChannel
      | pause => cases typed
      | _ =>
          obtain rfl := ResultShape.typed.inj typed
          rfl

/-- A field whose absence has a meaning is then written as `null` or left out, unless it is
the kind of a subscription, whose absence means a capsule. -/
theorem silence_of_typed (typed : H.shape = .typed object) (result : H.Output) {key : String}
    {written : Json} (silent : object.silence result key = some written) :
    written = .null ∨ (H = .bound .subscribe ∧ key = "kind" ∧ written = .string "capsule") := by
  by_cases other : H = .bound .subscribe
  · subst other
    obtain rfl := ResultShape.typed.inj typed
    have kind : (if key = "subscribed" then none else if key = "added" then none
        else if key = "store_id" then none else if key = "kind" then some (Json.string "capsule")
        else none) = some written := silent
    split_ifs at kind with _ _ _ isKind
    exact .inr ⟨rfl, isKind, (Option.some.inj kind).symm⟩
  · exact .inl (object.silence_of_quiet (quiet_of_typed typed other) result key written silent)

/-- A client reads a typed result back from any object that has the members the result is
written with, whatever other members it has.  When members that may be missing are
missing, exactly those fields have no value (a subscription without a kind is one of a
capsule), and every other field is as it was. -/
theorem result_evolution (typed : H.shape = .typed object) (result : H.Output) (map : JsonMap)
    (dropped : List String)
    (optional : ∀ key ∈ dropped, key ∈ object.declared → key ∈ object.optional result)
    (kept : ∀ key ∈ object.declared,
      map.get? key = if key ∈ dropped then none else (toValue result).member key) :
    ∃ read : H.Output, fromValue (.object map) = .ok read ∧
      (dropped = [] → read = result ∧ toValue read = toValue result) ∧
      (∀ key ∉ dropped, (toValue read).member key = (toValue result).member key) ∧
      ∀ key ∈ dropped, key ∈ object.optional result →
        ∀ written, (toValue read).member key = some written →
          written = .null ∨
            (H = .bound .subscribe ∧ key = "kind" ∧ written = .string "capsule") := by
  have member (value : H.Output) (key : String) :
      (toValue value).member key = (object.members value).get? key := by
    rw [object.toValue_eq value, Json.member_object]
  simp only [member] at kept ⊢
  refine ⟨object.forget dropped result,
    object.fromSource_members .value result map dropped optional kept, ?_, ?_, ?_⟩
  · intro same
    subst same
    have same := object.forget_nil result
    exact ⟨same, congrArg toValue same⟩
  · intro key left
    rw [object.get?_forget, if_neg fun both => left both.1]
  · intro key drop absent written silent
    rw [object.get?_forget, if_pos ⟨drop, absent⟩] at silent
    exact silence_of_typed typed result silent

theorem result_evolution_peerCounts :
    let result : PeerCountsResult := ⟨some 3, some 4, none⟩
    let dropped := ["dig_peer_count", "chia_peer_count", "known_dig_peer_count"]
    ∃ read : PeerCountsResult,
      fromValue (.object (BTreeMap.empty.insert "extra" (.bool true))) = .ok read ∧
        (dropped = [] → read = result ∧ toValue read = toValue result) ∧
        (∀ key ∉ dropped, (toValue read).member key = (toValue result).member key) ∧
        ∀ key ∈ dropped, key ∈ OpenObject.optional result →
          ∀ written, (toValue read).member key = some written →
            written = .null ∨ (HandlerMethod.bound .peerCounts = .bound .subscribe ∧
              key = "kind" ∧ written = .string "capsule") := by
  intro result dropped
  refine @result_evolution (.bound .peerCounts) (inferInstanceAs (OpenObject PeerCountsResult)) rfl
    result _ dropped (fun key drop _ => drop) (fun key declared => ?_)
  have named : key ∈ dropped := declared
  simp only [dropped, List.mem_cons, List.not_mem_nil, or_false] at named
  rcases named with rfl | rfl | rfl <;> rfl

end Results

end ControlInterface
