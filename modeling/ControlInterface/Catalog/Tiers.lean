import ControlInterface.Catalog.Runs

/-!
# Tiers of authorization

The catalog sorts its methods into those that are served without a token, those that any
token opens, and those whose effect outlives the token they are called with, which only
the master token opens.  A gate that goes by the name of a request confines what a caller
can do in a whole run.
-/

namespace ControlInterface

open ControlHandler

/-- What a caller can show: nothing, the token of a paired app, or the master token. -/
inductive Credential where
  | none
  | paired
  | master
  deriving DecidableEq

namespace Credential

/-- The method is open to callers with the credential. -/
def admits : Credential → ControlMethod → Bool
  | .none, method => !method.requiresAuth
  | .paired, method => !method.requiresMasterToken
  | .master, _ => true

/-- The request names no method, or one that is open to callers with the credential. -/
def passes (credential : Credential) (request : JsonRpcRequest) : Bool :=
  (ControlMethod.fromName request.method).all credential.admits

end Credential

namespace ControlMethod

/-- What the master token is required for is not open to callers without any. -/
theorem requiresAuth_of_requiresMasterToken {method : ControlMethod}
    (master : method.requiresMasterToken = true) : method.requiresAuth = true := by
  cases method <;> first | rfl | cases master

/-- The methods that are open to callers without a token are the open reads, which are
delegated, and the bootstrap of the pairing, whose names are outside `control`. -/
theorem requiresAuth_eq_false_iff {method : ControlMethod} :
    method.requiresAuth = false ↔
      (method.isOpenRead = true ∧ method.routing = .delegated) ∨
        (method.routing = .openBootstrap ∧ ¬"control.".isPrefixOf method.name) := by
  cases method <;> decide +kernel

end ControlMethod

namespace Credential

/-- Each credential opens what the one before it opens. -/
theorem admits_paired_of_none {method : ControlMethod} (opened : none.admits method = true) :
    paired.admits method = true := by
  simp only [admits, Bool.not_eq_eq_eq_not, Bool.not_true] at opened ⊢
  by_contra master
  rw [Bool.not_eq_false] at master
  rw [ControlMethod.requiresAuth_of_requiresMasterToken master] at opened
  cases opened

theorem passes_paired_of_none {request : JsonRpcRequest} (passes : none.passes request = true) :
    paired.passes request = true := by
  rw [Credential.passes, Option.all_eq_true] at passes ⊢
  intro method named
  exact admits_paired_of_none (passes method named)

/-- The names of the pairing lifecycle and of the changes to the trusted full nodes. -/
def masterOnly : List String :=
  ["control.pairing.list", "control.pairing.approve", "control.pairing.revoke",
    "control.chiaPeers.add", "control.chiaPeers.remove"]

theorem not_admits_paired_iff {method : ControlMethod} :
    paired.admits method = false ↔ method.name ∈ masterOnly := by
  cases method <;> decide +kernel

/-- The names that do not pass for a paired app are those that only the master token opens. -/
theorem not_passes_paired_iff {request : JsonRpcRequest} :
    paired.passes request = false ↔ request.method ∈ masterOnly := by
  rw [Credential.passes]
  cases found : ControlMethod.fromName request.method with
  | none =>
      simp only [Option.all_none, Bool.true_eq_false, false_iff]
      intro listed
      simp only [masterOnly, List.mem_cons, List.not_mem_nil, or_false] at listed
      rcases listed with same | same | same | same | same <;> rw [same] at found <;>
        revert found <;> decide +kernel
  | some method =>
      rw [Option.all_some, not_admits_paired_iff, ControlMethod.fromName_eq_some_iff.mp found]

/-- A call that a request comes to is open to callers whose credential passes the
request. -/
theorem admits_of_passes {env : Environment} {credential : Credential} {request : JsonRpcRequest}
    (passes : credential.passes request = true) {call : HandlerCall}
    (found : interpret env request = .ok call) : credential.admits call.1.method = true := by
  have named := (interpret_eq_ok found).1
  rw [Credential.passes, ← named, ControlMethod.fromName_name] at passes
  exact passes

end Credential

section Runs

variable {σ : Type} (env : Environment) (handler : ControlHandler (StateM σ))

/-- What a handler method keeps, a request that comes to it keeps. -/
theorem dispatch_keeps {P : σ → Prop} {request : JsonRpcRequest} {start : σ}
    (kept : ∀ H params, interpret env request = .ok ⟨H, params⟩ →
      P (((H.serve handler params).run).run start).2) (holds : P start) :
    P ((handler.dispatch env request).run start).2 := by
  rcases interpret_cases env request with ⟨error, refused⟩ | ⟨H, params, named, accepted, found⟩
  · rwa [dispatch_of_error handler refused]
  · rw [dispatch_accepted env handler request named accepted, StateT.run_map]
    exact kept H params found

/-- Behind a gate that goes by the names of requests, a caller reaches only handler methods
that are open to its credential, and what all of these keep is kept by every run.  So a paired
app reaches nothing of the pairing lifecycle and no change to the trusted full nodes, and a
caller without a token only open reads and the bootstrap of the pairing; and the gate turns
down by their names just what these must not reach. -/
theorem tiers_confine (credential : Credential) {P : σ → Prop}
    (kept : ∀ (H : HandlerMethod) (params : H.Params) (state : σ),
      credential.admits H.method = true → P state →
        P (((H.serve handler params).run).run state).2) (requests : List JsonRpcRequest) :
    (∀ call ∈ (requests.filter credential.passes).flatMap (callsOf env),
        credential.admits call.1.method = true ∧
          (credential = .paired → call.1.method.name ∉ Credential.masterOnly) ∧
          (credential = .none →
            (call.1.method.isOpenRead = true ∧ call.1.method.routing = .delegated) ∨
              (call.1.method.routing = .openBootstrap ∧
                ¬"control.".isPrefixOf call.1.method.name))) ∧
      (∀ start, P start →
        P ((serveAll env handler (requests.filter credential.passes)).run start).2) ∧
      ∀ request, (Credential.paired.passes request = false ↔
          request.method ∈ Credential.masterOnly) ∧
        (Credential.none.passes request = true → Credential.paired.passes request = true) := by
  have passed : ∀ request ∈ requests.filter credential.passes,
      credential.passes request = true := fun request member => (List.mem_filter.mp member).2
  generalize requests.filter credential.passes = admitted at passed ⊢
  refine ⟨?_, ?_, fun request =>
    ⟨Credential.not_passes_paired_iff, Credential.passes_paired_of_none⟩⟩
  · intro call member
    rcases List.mem_flatMap.mp member with ⟨request, inside, calls⟩
    have found : interpret env request = .ok call := by
      rw [callsOf, Option.mem_toList] at calls
      cases meaning : interpret env request with
      | error error =>
          rw [meaning] at calls
          cases calls
      | ok found =>
          rw [meaning] at calls
          exact congrArg Except.ok (Option.some.inj calls)
    have admits := Credential.admits_of_passes (passed request inside) found
    refine ⟨admits, ?_, ?_⟩
    · rintro rfl listed
      rw [Credential.not_admits_paired_iff.mpr listed] at admits
      cases admits
    · rintro rfl
      apply ControlMethod.requiresAuth_eq_false_iff.mp
      simpa only [Credential.admits, Bool.not_eq_eq_eq_not, Bool.not_true] using admits
  · intro start holds
    induction admitted generalizing start with
    | nil => exact holds
    | cons request rest ih =>
        rw [List.forall_mem_cons] at passed
        have first : P ((handler.dispatch env request).run start).2 :=
          dispatch_keeps env handler (fun H params found =>
            kept H params start (Credential.admits_of_passes passed.1 found) holds) holds
        exact ih passed.2 _ first

end Runs

/-- A node that counts the calls that only the master token opens. -/
def guardedNode : ControlHandler (StateM Nat) :=
  ofServe fun H _ => do
    if H.method.requiresMasterToken then modify (· + 1)
    throw (.of .notSupported "not supported")

theorem tiers_confine_guardedNode :
    let requests : List JsonRpcRequest :=
      [⟨"2.0", .number 1, "control.chiaPeers.add", .object .empty⟩,
        ⟨"2.0", .number 2, "control.status", .object .empty⟩]
    (∀ call ∈ (requests.filter Credential.paired.passes).flatMap (callsOf plainText),
        call.1.method.name ∉ Credential.masterOnly) ∧
      ∀ start, start = 0 →
        ((serveAll plainText guardedNode (requests.filter Credential.paired.passes)).run
          start).2 = 0 := by
  intro requests
  have confined := tiers_confine plainText guardedNode .paired (P := (· = 0))
    (fun H params state admitted holds => by
      rw [guardedNode, serve_ofServe]
      simp only [Credential.admits, Bool.not_eq_eq_eq_not, Bool.not_true] at admitted
      rw [admitted]
      exact holds) requests
  exact ⟨fun call member => (confined.1 call member).2.1 rfl, confined.2.1⟩

end ControlInterface
