import ControlInterface.Results.Wallet

/-!
# What became of a spend

A client learns what became of a spend from two texts on the wire, the state and, of a
failure, the stage.  They decide whether the outcome is still unknown: a failure is no
proof that nothing moved unless it came before there was anything to send.
-/

namespace Serde.UnitEnum

variable {E : Type} [UnitEnum E]

/-- The JSON value spells the name of a variant: it is the name, or an object whose one key
is the name. -/
def Spells (value : Json) (name : String) : Prop :=
  value.view = .string name ∨ ∃ payload sorted, value.view = .object ⟨[(name, payload)], sorted⟩

theorem wire_of_find {name : String} {variant : E} (found : find name = .ok variant) :
    wire variant = name := by
  rw [find] at found
  split at found
  next other isVariant =>
    cases found
    exact (find?_eq_some_iff distinct complete).mp isVariant
  next => cases found

theorem spells_of_fromSource {source : Source} {value : Json} {variant : E}
    (read : fromSource source value = .ok variant) : Spells value (wire variant) := by
  cases value with
  | string name =>
      left
      rw [wire_of_find read, Json.view_string]
  | object map =>
      right
      rcases map with ⟨entries, sorted⟩
      cases entries with
      | nil => simp [fromSource] at read
      | cons entry rest =>
          cases rest with
          | nil =>
              simp only [fromSource, Json.view_object] at read
              rcases bind_eq_ok.mp read with ⟨found, isFound, others⟩
              rcases bind_eq_ok.mp others with ⟨_, _, same⟩
              cases same
              rw [wire_of_find isFound]
              exact ⟨entry.2, sorted, Json.view_object _⟩
          | cons _ _ => simp [fromSource] at read
  | _ => simp [fromSource, mismatch] at read

/-- A JSON value spells one name at most. -/
theorem Spells.unique {value : Json} {left right : String} (spellsLeft : Spells value left)
    (spellsRight : Spells value right) : left = right := by
  rcases spellsLeft with spelled | ⟨_, _, spelled⟩ <;>
    rcases spellsRight with same | ⟨_, _, same⟩ <;> rw [spelled] at same <;> cases same <;> rfl

end Serde.UnitEnum

namespace ControlInterface

open Serde

namespace SpendFailureStage

/-- Could the money have moved anyway? -/
def moneyMayHaveMoved : SpendFailureStage → Bool
  | .signing => false
  | .broadcast | .confirmation => true

def token : SpendFailureStage → String
  | .signing => "signing"
  | .broadcast => "broadcast"
  | .confirmation => "confirmation"

theorem wire_eq_token (stage : SpendFailureStage) : UnitEnum.wire stage = stage.token := by
  cases stage <;> rfl

end SpendFailureStage

namespace SpendOutcome

def token : SpendOutcome → String
  | .pending => "pending"
  | .submitted => "submitted"
  | .confirmed _ _ => "confirmed"
  | .failed _ _ => "failed"
  | .unresolved _ => "unresolved"

/-- Is what happened to the money still unknown? -/
def outcomeIsUnknown : SpendOutcome → Bool
  | .unresolved _ => true
  | .failed stage _ => stage.moneyMayHaveMoved
  | .pending | .submitted | .confirmed _ _ => false

/-! ## On the wire -/

/-- The JSON value gives the state, by name or by position. -/
def GivesState (value : Json) (state : String) : Prop :=
  value.supplied ["state", "stage", "reason"] "state" = some (.string state)

/-- The JSON value gives the stage, by name or by position. -/
def GivesStage (value : Json) (stage : String) : Prop :=
  ∃ given, value.supplied ["state", "stage", "reason"] "stage" = some given ∧
    UnitEnum.Spells given stage

/-- By the two texts, what happened to the money is unknown. -/
def LooksUnknown (value : Json) : Prop :=
  GivesState value "unresolved" ∨
    GivesState value "failed" ∧ (GivesStage value "broadcast" ∨ GivesStage value "confirmation")

variable {value : Json} {outcome : SpendOutcome}

theorem wire_eq_token (outcome : SpendOutcome) :
    TaggedEnum.variants.wire (TaggedEnum.choice outcome) = outcome.token := by
  cases outcome <;> rfl

/-- A value that is read gives the token of what it is read as, and no other state. -/
theorem givesState_iff (read : fromValue value = .ok outcome) (state : String) :
    GivesState value state ↔ outcome.token = state := by
  rcases TaggedEnum.exists_filled read with ⟨content, untagged, _⟩
  rw [wire_eq_token] at untagged
  have given : GivesState value outcome.token :=
    (supplied_of_untag untagged ["stage", "reason"]).1
  rw [GivesState, show _ = _ from given, Option.some.injEq, Json.string.injEq]

/-- A value that is read as a failure gives the token of its stage, and no other stage. -/
theorem givesStage_iff {stage : SpendFailureStage} {reason : String}
    (read : fromValue value = .ok (failed stage reason)) (name : String) :
    GivesStage value name ↔ stage.token = name := by
  rcases TaggedEnum.exists_filled read with ⟨content, untagged, filled⟩
  rcases filled.1.exists_given rfl rfl with ⟨given, supplied, readStage⟩
  have spelled := UnitEnum.spells_of_fromSource readStage
  rw [stage.wire_eq_token] at spelled
  have present : value.supplied ["state", "stage", "reason"] "stage" = some given :=
    ((supplied_of_untag untagged ["stage", "reason"]).2 "stage" (by decide)).trans supplied
  rw [GivesStage, present]
  constructor
  · intro gives
    rcases gives with ⟨_, ⟨⟩, spells⟩
    exact spelled.unique spells
  · intro same
    exact ⟨given, rfl, same ▸ spelled⟩

/-- A value that is read looks unknown just when the outcome it is read as is. -/
theorem looksUnknown_iff (read : fromValue value = .ok outcome) :
    LooksUnknown value ↔ outcome.outcomeIsUnknown = true := by
  rw [LooksUnknown, givesState_iff read, givesState_iff read]
  cases outcome with
  | failed stage reason =>
      rw [givesStage_iff read, givesStage_iff read]
      cases stage <;> simp [token, SpendFailureStage.token, outcomeIsUnknown,
        SpendFailureStage.moneyMayHaveMoved]
  | _ => simp [token, outcomeIsUnknown]

/-- The texts on the wire tell what the value tells: every value that is read gives the
token of its state and no other state, and looks unknown by its two texts just when the
outcome is; so does what is written.  The state alone decides it for no client. -/
theorem outcome_told :
    (∀ (value : Json) (outcome : SpendOutcome), fromValue value = .ok outcome →
      (∀ state, GivesState value state ↔ outcome.token = state) ∧
        (LooksUnknown value ↔ outcome.outcomeIsUnknown = true)) ∧
    (∀ outcome : SpendOutcome,
      (∀ state, GivesState (toValue outcome) state ↔ outcome.token = state) ∧
        (LooksUnknown (toValue outcome) ↔ outcome.outcomeIsUnknown = true)) ∧
    ¬∃ judge : String → Bool, ∀ outcome : SpendOutcome,
      judge outcome.token = outcome.outcomeIsUnknown := by
  refine ⟨?_, ?_, ?_⟩
  · intro value outcome read
    exact ⟨givesState_iff read, looksUnknown_iff read⟩
  · intro outcome
    have read : fromValue (toValue outcome) = .ok outcome := LawfulSerde.fromSource_toValue _ _
    exact ⟨givesState_iff read, looksUnknown_iff read⟩
  · intro judged
    rcases judged with ⟨judge, agrees⟩
    -- failures are told apart by their stage only
    have atSigning := agrees (failed .signing "")
    have atBroadcast := agrees (failed .broadcast "")
    exact Bool.false_ne_true (atSigning.symm.trans atBroadcast)

end SpendOutcome

end ControlInterface
