import Mathlib.Order.Defs.LinearOrder
import Mathlib.Data.String.Basic
import Mathlib.Data.List.Sort

/-!
# Ordered maps

A map is the list of its entries in strictly increasing key order, so a map has
exactly one representative: a key cannot occur twice, and two maps with the same
lookups are equal.  This is the abstract content of Rust's `BTreeMap`, and it is
what `serde_json` keeps a JSON object in.
-/

namespace Serde

variable {κ α : Type} [LinearOrder κ]

/-- A finite map, as its entries in strictly increasing key order. -/
@[ext] structure BTreeMap (κ α : Type) [LinearOrder κ] where
  entries : List (κ × α)
  sorted : entries.Pairwise fun left right => left.1 < right.1

namespace BTreeMap

/-! ## Entry lists -/

/-- The value under the first entry with the given key. -/
def lookup (key : κ) : List (κ × α) → Option α
  | [] => none
  | (other, value) :: rest => if key = other then some value else lookup key rest

/-- Insert into an entry list, replacing the value of an equal key. -/
def insertEntry (key : κ) (value : α) : List (κ × α) → List (κ × α)
  | [] => [(key, value)]
  | (other, old) :: rest =>
      if key < other then (key, value) :: (other, old) :: rest
      else if key = other then (key, value) :: rest
      else (other, old) :: insertEntry key value rest

@[simp] theorem lookup_nil (key : κ) : lookup key ([] : List (κ × α)) = none := rfl

@[simp] theorem lookup_cons (key other : κ) (value : α) (rest : List (κ × α)) :
    lookup key ((other, value) :: rest) =
      if key = other then some value else lookup key rest := rfl

theorem lookup_cons_self (key : κ) (value : α) (rest : List (κ × α)) :
    lookup key ((key, value) :: rest) = some value := by
  rw [lookup_cons, if_pos rfl]

theorem lookup_cons_of_ne {key other : κ} (distinct : key ≠ other) (value : α)
    (rest : List (κ × α)) : lookup key ((other, value) :: rest) = lookup key rest := by
  rw [lookup_cons, if_neg distinct]

theorem lookup_map {β : Type} (key : κ) (image : α → β) (entries : List (κ × α)) :
    lookup key (entries.map fun entry => (entry.1, image entry.2)) =
      (lookup key entries).map image := by
  induction entries with
  | nil => rfl
  | cons entry rest ih =>
      by_cases equal : key = entry.1 <;> simp [lookup, equal, ih]

theorem lookup_insertEntry (key : κ) (value : α) (query : κ)
    (entries : List (κ × α)) :
    lookup query (insertEntry key value entries) =
      if query = key then some value else lookup query entries := by
  induction entries with
  | nil => rfl
  | cons entry rest ih =>
      rcases entry with ⟨other, old⟩
      simp only [insertEntry]
      split
      · rfl
      · split
        next equal =>
          subst equal
          by_cases same : query = key <;> simp [same]
        next different =>
          by_cases same : query = other
          · have : query ≠ key := fun equal => different (equal.symm.trans same)
            simp [same, Ne.symm different]
          · simp [same, ih]

theorem mem_insertEntry_key {key : κ} {value : α} {entries : List (κ × α)}
    {entry : κ × α} (member : entry ∈ insertEntry key value entries) :
    entry.1 = key ∨ entry ∈ entries := by
  induction entries with
  | nil => simp_all [insertEntry]
  | cons head rest ih =>
      rcases head with ⟨other, old⟩
      simp only [insertEntry] at member
      split at member
      · rcases List.mem_cons.mp member with rfl | member
        · exact .inl rfl
        · exact .inr member
      · split at member
        · rcases List.mem_cons.mp member with rfl | member
          · exact .inl rfl
          · exact .inr (List.mem_cons_of_mem _ member)
        · rcases List.mem_cons.mp member with rfl | member
          · exact .inr List.mem_cons_self
          · exact (ih member).imp_right (List.mem_cons_of_mem _)

/-- Storing under a new key adds an entry and moves no other. -/
theorem insertEntry_perm {key : κ} (value : α) {entries : List (κ × α)}
    (fresh : key ∉ entries.map Prod.fst) :
    (insertEntry key value entries).Perm ((key, value) :: entries) := by
  induction entries with
  | nil => exact .refl _
  | cons entry rest ih =>
      rcases entry with ⟨other, old⟩
      rw [List.map_cons, List.mem_cons, not_or] at fresh
      rw [insertEntry, if_neg fresh.1]
      split
      · exact .refl _
      · exact ((ih fresh.2).cons _).trans (.swap _ _ _)

theorem insertEntry_sorted (key : κ) (value : α) {entries : List (κ × α)}
    (sorted : entries.Pairwise fun left right => left.1 < right.1) :
    (insertEntry key value entries).Pairwise fun left right => left.1 < right.1 := by
  induction sorted with
  | nil => simp [insertEntry]
  | @cons head rest smaller sorted ih =>
      rcases head with ⟨other, old⟩
      simp only [insertEntry]
      split
      next before =>
        refine .cons ?_ (.cons smaller sorted)
        intro entry member
        rcases List.mem_cons.mp member with rfl | member
        · exact before
        · exact before.trans (smaller entry member)
      next notBefore =>
        split
        next equal =>
          subst equal
          exact .cons smaller sorted
        next different =>
          refine .cons ?_ ih
          intro entry member
          rcases mem_insertEntry_key member with equal | member
          · exact equal ▸ lt_of_le_of_ne (not_lt.mp notBefore) (Ne.symm different)
          · exact smaller entry member

/-- In a sorted entry list a lookup finds exactly the entries. -/
theorem mem_iff_lookup {entries : List (κ × α)}
    (sorted : entries.Pairwise fun left right => left.1 < right.1) (key : κ) (value : α) :
    (key, value) ∈ entries ↔ lookup key entries = some value := by
  induction sorted with
  | nil => simp
  | @cons head rest smaller sorted ih =>
      rcases head with ⟨other, old⟩
      by_cases equal : key = other
      · subst equal
        have absent : (key, value) ∉ rest := fun member =>
          lt_irrefl key (smaller _ member)
        simp [absent, eq_comm]
      · simp [equal, ih]

/-! ## Operations -/

/-- The value stored under a key. -/
def get? (map : BTreeMap κ α) (key : κ) : Option α := lookup key map.entries

/-- The map with no entry. -/
def empty : BTreeMap κ α := ⟨[], .nil⟩

/-- Store a value under a key, replacing what was there. -/
def insert (map : BTreeMap κ α) (key : κ) (value : α) : BTreeMap κ α :=
  ⟨insertEntry key value map.entries, insertEntry_sorted key value map.sorted⟩

/-- Keep the entries whose key satisfies a test. -/
def filterKeys (map : BTreeMap κ α) (keep : κ → Bool) : BTreeMap κ α :=
  ⟨map.entries.filter fun entry => keep entry.1, map.sorted.filter _⟩

/-- Remove a key. -/
def erase (map : BTreeMap κ α) (key : κ) : BTreeMap κ α :=
  map.filterKeys fun other => decide (other ≠ key)

/-- The keys, in increasing order. -/
def keys (map : BTreeMap κ α) : List κ := map.entries.map Prod.fst

/-- The map that holds the given entries, the first of two with an equal key
prevailing. -/
def ofList (entries : List (κ × α)) : BTreeMap κ α :=
  entries.foldr (fun entry map => map.insert entry.1 entry.2) empty

@[simp] theorem get?_empty (key : κ) : (empty : BTreeMap κ α).get? key = none := rfl

@[simp] theorem get?_insert (map : BTreeMap κ α) (key : κ) (value : α) (query : κ) :
    (map.insert key value).get? query = if query = key then some value else map.get? query :=
  lookup_insertEntry key value query map.entries

theorem mem_entries_iff (map : BTreeMap κ α) (key : κ) (value : α) :
    (key, value) ∈ map.entries ↔ map.get? key = some value :=
  mem_iff_lookup map.sorted key value

private theorem entries_nodup (map : BTreeMap κ α) : map.entries.Nodup := by
  apply map.sorted.imp
  intro left right less equal
  rw [equal] at less
  exact lt_irrefl _ less

/-- A map is determined by its lookups. -/
theorem ext_get? {left right : BTreeMap κ α}
    (agree : ∀ key, left.get? key = right.get? key) : left = right := by
  have members : ∀ entry, entry ∈ left.entries ↔ entry ∈ right.entries := by
    rintro ⟨key, value⟩
    rw [mem_entries_iff, mem_entries_iff, agree]
  have permutation : left.entries.Perm right.entries :=
    (List.perm_ext_iff_of_nodup left.entries_nodup right.entries_nodup).mpr members
  exact BTreeMap.ext (permutation.eq_of_pairwise
    (fun _ _ _ _ before after => absurd (before.trans after) (lt_irrefl _))
    left.sorted right.sorted)

@[simp] theorem get?_filterKeys (map : BTreeMap κ α) (keep : κ → Bool) (query : κ) :
    (map.filterKeys keep).get? query = if keep query then map.get? query else none := by
  apply Option.ext
  intro value
  rw [← mem_entries_iff]
  simp only [filterKeys, List.mem_filter, mem_entries_iff]
  split
  next kept => simp [kept]
  next dropped => simp [dropped]

@[simp] theorem get?_erase (map : BTreeMap κ α) (key query : κ) :
    (map.erase key).get? query = if query = key then none else map.get? query := by
  simp only [erase, get?_filterKeys]
  by_cases equal : query = key <;> simp [equal]

theorem erase_erase (map : BTreeMap κ α) (key : κ) : (map.erase key).erase key = map.erase key := by
  apply ext_get?
  intro query
  rw [get?_erase, get?_erase]
  split <;> rfl

theorem lookup_append (query : κ) (left right : List (κ × α)) :
    lookup query (left ++ right) = (lookup query left).or (lookup query right) := by
  induction left with
  | nil => rfl
  | cons entry rest ih =>
      by_cases equal : query = entry.1 <;> simp [lookup, equal, ih]

@[simp] theorem lookup_entries (map : BTreeMap κ α) (query : κ) :
    lookup query map.entries = map.get? query := rfl

@[simp] theorem get?_ofList (entries : List (κ × α)) (query : κ) :
    (ofList entries).get? query = lookup query entries := by
  induction entries with
  | nil => rfl
  | cons entry rest ih =>
      change ((ofList rest).insert entry.1 entry.2).get? query = _
      rw [get?_insert, ih]
      rfl

/-- Entries with distinct keys are the entries of their map, up to order. -/
theorem ofList_perm {entries : List (κ × α)} (distinct : (entries.map Prod.fst).Nodup) :
    (ofList entries).entries.Perm entries := by
  induction entries with
  | nil => exact .refl _
  | cons entry rest ih =>
      rw [List.map_cons, List.nodup_cons] at distinct
      have others := ih distinct.2
      have fresh : entry.1 ∉ (ofList rest).entries.map Prod.fst := by
        rw [(others.map Prod.fst).mem_iff]
        exact distinct.1
      exact (insertEntry_perm entry.2 fresh).trans (others.cons entry)

/-- Filtering forgets what happens to a key that is not kept. -/
theorem filterKeys_congr {left right : BTreeMap κ α} {keep : κ → Bool}
    (agree : ∀ key, keep key = true → left.get? key = right.get? key) :
    left.filterKeys keep = right.filterKeys keep := by
  apply ext_get?
  intro key
  by_cases kept : keep key = true
  · simp [kept, agree key kept]
  · simp [kept]

end BTreeMap

end Serde
