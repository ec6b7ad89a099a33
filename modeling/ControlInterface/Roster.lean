import Mathlib

/-!
# Rosters

A roster is a set of keys that changes in batches: a change enters the keys it names, or
strikes them.  Whether a key is on the roster after any number of changes is decided by the
last change that names it, and by no other one.
-/

namespace Roster

variable {κ : Type}

/-- A change of a roster. -/
inductive Change (κ : Type) where
  | enter (keys : List κ)
  | strike (keys : List κ)

namespace Change

/-- The keys a change names. -/
def keys : Change κ → List κ
  | .enter keys => keys
  | .strike keys => keys

/-- The change enters its keys. -/
def enters : Change κ → Bool
  | .enter _ => true
  | .strike _ => false

end Change

variable [DecidableEq κ]

/-- The roster after a change. -/
def Change.apply : Change κ → Finset κ → Finset κ
  | .enter keys, roster => roster ∪ keys.toFinset
  | .strike keys, roster => roster \ keys.toFinset

/-- The roster after changes that are made one after the other. -/
def after (roster : Finset κ) : List (Change κ) → Finset κ
  | [] => roster
  | change :: later => after (change.apply roster) later

/-- Whether the last change that names the key enters it, if a change names it. -/
def verdict (key : κ) : List (Change κ) → Option Bool
  | [] => none
  | change :: later =>
      (verdict key later).or (if key ∈ change.keys then some change.enters else none)

/-! ## One change -/

section Step

variable {key : κ} {roster : Finset κ}

theorem Change.mem_apply_of_mem {change : Change κ} (named : key ∈ change.keys) :
    key ∈ change.apply roster ↔ change.enters = true := by
  cases change with
  | enter keys =>
      rw [apply, Finset.mem_union, List.mem_toFinset]
      exact iff_of_true (.inr named) rfl
  | strike keys =>
      rw [apply, Finset.mem_sdiff, List.mem_toFinset]
      exact iff_of_false (fun kept => kept.2 named) nofun

theorem Change.mem_apply_of_notMem {change : Change κ} (unnamed : key ∉ change.keys) :
    key ∈ change.apply roster ↔ key ∈ roster := by
  cases change with
  | enter keys =>
      rw [apply, Finset.mem_union, List.mem_toFinset]
      exact or_iff_left unnamed
  | strike keys =>
      rw [apply, Finset.mem_sdiff, List.mem_toFinset]
      exact and_iff_left unnamed

/-- Striking the keys that were entered leaves those that were there besides. -/
theorem Change.strike_enter (keys : List κ) :
    (strike keys).apply ((enter keys).apply roster) = roster \ keys.toFinset := by
  rw [apply, apply]
  exact Finset.union_sdiff_right _ _

end Step

/-! ## Many changes -/

section Run

variable {key : κ} {roster : Finset κ} {changes : List (Change κ)}

/-- The last change that names a key decides about it. -/
theorem mem_after_iff :
    key ∈ after roster changes ↔
      (verdict key changes).getD (decide (key ∈ roster)) = true := by
  induction changes generalizing roster with
  | nil => rw [after, verdict, Option.getD_none, decide_eq_true_iff]
  | cons change later ih =>
      rw [after, ih, verdict]
      cases verdict key later with
      | some enters => rfl
      | none =>
          rw [Option.none_or, Option.getD_none, decide_eq_true_iff]
          by_cases named : key ∈ change.keys
          · rw [if_pos named, Change.mem_apply_of_mem named, Option.getD_some]
          · rw [if_neg named, Change.mem_apply_of_notMem named, Option.getD_none,
              decide_eq_true_iff]

/-- A key that is on a roster that began without it was named by a change. -/
theorem exists_named_of_mem (listed : key ∈ after roster changes) :
    key ∈ roster ∨ ∃ change ∈ changes, key ∈ change.keys := by
  induction changes generalizing roster with
  | nil => exact .inl listed
  | cons change later ih =>
      rcases ih listed with before | ⟨other, member, named⟩
      · by_cases named : key ∈ change.keys
        · exact .inr ⟨change, List.mem_cons_self, named⟩
        · exact .inl ((Change.mem_apply_of_notMem named).mp before)
      · exact .inr ⟨other, List.mem_cons_of_mem _ member, named⟩

end Run

end Roster
