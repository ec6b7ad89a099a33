import ControlInterface.Reference.Node

/-!
# The safety margin of a node

The margin is that of the last accepted request to set it, and never above the maximum.
-/

namespace ControlInterface

open Serde ControlHandler

namespace MockNode

/-- The margin a call sets, if it sets one. -/
def marginChange : HandlerCall → Option UInt64
  | ⟨.bound .collateralMarginSet, (params : CollateralMarginSetParams)⟩ => some params.marginBp
  | _ => none

section Calls

variable (fixtures : ControlHandler Id)

theorem marginBp_effect (call : HandlerCall) (state : MockState) :
    ((node fixtures).effect call state).marginBp = (marginChange call).getD state.marginBp := by
  have kept (idle : component call.1 ≠ some .marginBp) :
      ((node fixtures).effect call state).marginBp = state.marginBp :=
    (effect_agreeBut fixtures state call).marginBp idle
  rcases call with ⟨H, params⟩
  cases H with
  | chiaPeersList => exact kept nofun
  | bound C =>
      cases C with
      | collateralMarginSet => rfl
      | _ => exact kept nofun

theorem marginBp_effects (calls : List HandlerCall) (state : MockState) :
    ((node fixtures).effects state calls).marginBp =
      (calls.filterMap marginChange).getLast?.getD state.marginBp := by
  induction calls generalizing state with
  | nil => rfl
  | cons call rest ih =>
      rw [effects, List.foldl_cons, ← effects, ih, marginBp_effect]
      cases change : marginChange call with
      | none => rw [List.filterMap_cons_none change]; rfl
      | some margin => rw [List.filterMap_cons_some change, List.getLast?_cons]; rfl

theorem marginChange_le {env : Environment} {call : HandlerCall} (accepted : Accepted env call)
    {margin : UInt64} (changes : marginChange call = some margin) : margin ≤ maxSafetyMarginBp := by
  rcases call with ⟨H, params⟩
  rcases accepted with ⟨json, accepted⟩
  cases H with
  | chiaPeersList => cases changes
  | bound C =>
      cases C with
      | collateralMarginSet =>
          cases changes
          have valid : CollateralMarginSetParams.validated params = .ok params :=
            (CallType.collateralMarginSet.binding.node env).validated_of_accept accepted
          exact (CollateralMarginSetParams.validated_eq_ok_iff.mp valid).2
      | _ => cases changes

theorem marginBp_le {env : Environment} {calls : List HandlerCall}
    (accepted : ∀ call ∈ calls, Accepted env call) {state : MockState}
    (bounded : state.marginBp ≤ maxSafetyMarginBp) :
    ((node fixtures).effects state calls).marginBp ≤ maxSafetyMarginBp := by
  apply effects_keep (node fixtures) (P := fun state => state.marginBp ≤ maxSafetyMarginBp) _
    accepted bounded
  intro call state isAccepted before
  rw [marginBp_effect]
  cases changes : marginChange call with
  | none => exact before
  | some margin => exact marginChange_le isAccepted changes

end Calls

section Runs

variable (env : Environment) (fixtures : ControlHandler Id)

/-- After any requests, the margin is that of the last accepted request to set it, or the
default if there is none; it is what the node answers when asked, and what its collateral
buffer is computed with; and it is never above the maximum, with any number of calls in
flight. -/
theorem margin_last_set :
    (∀ requests : List JsonRpcRequest,
      let final := ((serveAll env (node fixtures) requests).run .initial).2
      let margin := ((requests.flatMap (callsOf env)).filterMap marginChange).getLast?.getD
        defaultSafetyMarginBp
      (∀ id, ((node fixtures).dispatch env
          (buildRequest id (⟨⟩ : CollateralMarginGetParams))).run final =
            (.success id (toValue (⟨margin⟩ : CollateralMarginResult)), final)) ∧
        ∀ id, ∃ buffer, ((node fixtures).dispatch env
            (buildRequest id (⟨⟩ : CollateralBufferParams))).run final =
              (.success id (toValue (buffer : CollateralBufferResult)), final) ∧
          ∃ epoch version funding recommended spendable pairs required overlap headroom horizon
            ceiling, buffer = .known epoch version funding recommended spendable pairs required
              margin overlap headroom horizon ceiling) ∧
      ∀ state, InFlight.Run (jsonWire env (node fixtures)) (.initial .initial) state →
        state.node.marginBp ≤ maxSafetyMarginBp := by
  constructor
  · intro requests final margin
    have reached : final.marginBp = margin := by
      show (((serveAll env (node fixtures) requests).run _).2).marginBp = _
      rw [serveAll_effects, marginBp_effects]
      rfl
    constructor
    · intro id
      have found : interpret env (buildRequest id (⟨⟩ : CollateralMarginGetParams)) =
          .ok ⟨.bound .collateralMarginGet, ⟨⟩⟩ :=
        interpret_buildRequest (C := .collateralMarginGet) id rfl
      rw [← reached]
      exact run_dispatch (node fixtures) found final
    · intro id
      have found : interpret env (buildRequest id (⟨⟩ : CollateralBufferParams)) =
          .ok ⟨.bound .collateralBuffer, ⟨⟩⟩ :=
        interpret_buildRequest (C := .collateralBuffer) id rfl
      refine ⟨_, run_dispatch (node fixtures) found final, ?_⟩
      rw [← reached]
      exact ⟨_, _, _, _, _, _, _, _, _, _, _, rfl⟩
  · intro state run
    rcases run_effects (node fixtures) run with ⟨calls, accepted, reached⟩
    rw [reached]
    exact marginBp_le fixtures accepted (by decide)

end Runs

end MockNode

end ControlInterface
