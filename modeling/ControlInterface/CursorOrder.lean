import ControlInterface.Paging
import ControlInterface.Results.Collateral
import ControlInterface.Text.Collation

/-!
# The order of cursors

Pages of bonds come in ascending order of their keys, and a cursor names a position in
that order.  The keys are strings; a client may as well compare the numbers the strings
spell, since every key in canonical form has the one width and the one case.
-/

namespace ControlInterface

open Serde Text

/-! ## Asset ids -/

/-- The derived order of asset ids: byte by byte. -/
def AssetId.cmp (left right : AssetId) : Ordering := compare left.bytes right.bytes

theorem AssetId.cmp_eq_number (left right : AssetId) :
    left.cmp right = compare left.number right.number := by
  rw [AssetId.cmp, compare_bytes]
  apply compare_number
  · rw [List.length_map, List.length_map, left.size, right.size]
  · exact byteDigits_lt left.bytes
  · exact byteDigits_lt right.bytes

theorem AssetId.compareText_toHex (left right : AssetId) :
    compareText left.toHex right.toHex = compare left.number right.number := by
  apply compareText_of_isLowerHex
  · rw [left.toHex_length, right.toHex_length]
  · exact left.isLowerHex_toHex
  · exact right.isLowerHex_toHex
  · exact left.hexNumber?_toHex
  · exact right.hexNumber?_toHex

/-! ## Keys in canonical form -/

/-- The derived order of keys: by store id, then by root. -/
def MirrorBondKey.cmp (left right : MirrorBondKey) : Ordering :=
  (compareText left.storeId right.storeId).then (compareText left.root right.root)

instance : Std.TransCmp MirrorBondKey.cmp :=
  inferInstanceAs (Std.TransCmp (compareLex
    (compareOn fun key : MirrorBondKey => bytes key.storeId)
    (compareOn fun key : MirrorBondKey => bytes key.root)))

instance : Std.LawfulEqCmp MirrorBondKey.cmp where
  compare_self := Std.ReflCmp.compare_self
  eq_of_compare := by
    intro left right same
    rw [MirrorBondKey.cmp, Ordering.then_eq_eq] at same
    have store := Std.LawfulEqCmp.eq_of_compare same.1
    have root := Std.LawfulEqCmp.eq_of_compare same.2
    cases left
    cases right
    cases store
    cases root
    rfl

/-- A key both of whose halves are canonical. -/
abbrev BondKey := { key : MirrorBondKey // MirrorBondStatesParams.CanonicalKey key }

theorem CanonicalHex.exists_number {text : String} (canonical : CanonicalHex coinIdHexLen text) :
    ∃ number, hexNumber? text.toList = some number ∧ number < 2 ^ 256 := by
  have digits : (hexNumber? text.toList).isSome := hexNumber?_isSome_iff.mpr fun char member =>
    Option.isSome_iff_exists.mpr (canonical.2 char member).hexDigit?
  rcases Option.isSome_iff_exists.mp digits with ⟨number, spelled⟩
  have bounded := hexNumber?_lt canonical.2 spelled
  rw [canonical.1, coinIdHexLen, show 16 = 2 ^ 4 from rfl, ← Nat.pow_mul] at bounded
  exact ⟨number, spelled, bounded⟩

/-- The number a canonical half of a key spells. -/
def halfNumber (text : String) (canonical : CanonicalHex coinIdHexLen text) : Fin (2 ^ 256) :=
  ⟨(hexNumber? text.toList).getD 0, by
    rcases canonical.exists_number with ⟨number, spelled, bounded⟩
    rwa [spelled]⟩

theorem hexNumber?_eq_halfNumber {text : String} (canonical : CanonicalHex coinIdHexLen text) :
    hexNumber? text.toList = some (halfNumber text canonical).val := by
  rcases canonical.exists_number with ⟨number, spelled, _⟩
  have same : (halfNumber text canonical).val = number := by
    simp only [halfNumber, spelled, Option.getD_some]
  rw [same, spelled]

theorem compareText_eq_halfNumber {left right : String}
    (leftCanonical : CanonicalHex coinIdHexLen left)
    (rightCanonical : CanonicalHex coinIdHexLen right) :
    compareText left right =
      compare (halfNumber left leftCanonical) (halfNumber right rightCanonical) := by
  apply compareText_of_isLowerHex
  · rw [leftCanonical.1, rightCanonical.1]
  · exact leftCanonical.2
  · exact rightCanonical.2
  · exact hexNumber?_eq_halfNumber leftCanonical
  · exact hexNumber?_eq_halfNumber rightCanonical

namespace BondKey

/-- The numbers the halves of a key spell. -/
def numbers (key : BondKey) : Fin (2 ^ 256) × Fin (2 ^ 256) :=
  (halfNumber key.1.storeId key.2.1, halfNumber key.1.root key.2.2)

/-- The order of keys as strings. -/
def cmp (left right : BondKey) : Ordering := left.1.cmp right.1

/-- The order of keys as pairs of numbers. -/
def numericCmp (left right : BondKey) : Ordering :=
  (compare left.numbers.1 right.numbers.1).then (compare left.numbers.2 right.numbers.2)

theorem cmp_eq_numericCmp : cmp = numericCmp := by
  funext left right
  rw [cmp, numericCmp, MirrorBondKey.cmp, compareText_eq_halfNumber left.2.1 right.2.1,
    compareText_eq_halfNumber left.2.2 right.2.2]
  rfl

instance : Std.TransCmp cmp :=
  inferInstanceAs (Std.TransCmp (compareLex
    (compareOn fun key : BondKey => bytes key.1.storeId)
    (compareOn fun key : BondKey => bytes key.1.root)))

/-- A key in canonical form is its own normal form. -/
theorem normalizeBondKey_self (key : BondKey) :
    MirrorBondStatesParams.normalizeBondKey key.1 = .ok key.1 :=
  MirrorBondStatesParams.normalizeBondKey_eq_ok_iff.mpr
    ⟨normalizeHex_canonical key.2.1, normalizeHex_canonical key.2.2⟩

theorem canonicalKey_of_normalize {raw key : MirrorBondKey}
    (normalized : MirrorBondStatesParams.normalizeBondKey raw = .ok key) :
    MirrorBondStatesParams.CanonicalKey key := by
  rcases MirrorBondStatesParams.normalizeBondKey_eq_ok_iff.mp normalized with ⟨store, root⟩
  exact ⟨(normalizeHex_idem store).1, (normalizeHex_idem root).1⟩

/-- A request that resumes from such a key is accepted as it is, with a page size that
is not zero. -/
theorem validated_resume (cursor : Option BondKey) {limit : Option UInt32}
    (within : LimitWithin mirrorBondStatesMaxLimit limit) :
    let request : MirrorBondStatesParams := ⟨cursor.map Subtype.val, limit⟩
    request.validated = .ok request ∧ 0 < request.effectiveLimit := by
  constructor
  · rw [MirrorBondStatesParams.validated_eq_ok_iff]
    refine ⟨within, _, ?_, rfl⟩
    cases cursor with
    | none => exact .none
    | some key => exact .some ⟨normalizeHex_canonical key.2.1, normalizeHex_canonical key.2.2⟩
  · have positive := (within.getD (show 1 ≤ mirrorBondStatesDefaultLimit ∧ _ by decide)).1
    rw [UInt32.le_iff_toNat_le] at positive
    exact UInt32.lt_iff_toNat_lt.mpr positive

end BondKey

/-! ## Pages of bonds -/

/-- The key of a bond. -/
def MirrorBondEntry.key (entry : MirrorBondEntry) : MirrorBondKey where
  storeId := entry.storeId
  root := entry.root

/-- A bond whose key is in canonical form. -/
structure BondRow where
  entry : MirrorBondEntry
  canonical : MirrorBondStatesParams.CanonicalKey entry.key

def BondRow.key (row : BondRow) : BondKey := ⟨row.entry.key, row.canonical⟩

/-- The bonds of a node at one time, in ascending order of their keys. -/
abbrev BondSet := { rows : List BondRow // Paging.Ascending BondRow.key BondKey.cmp rows }

open Paging in
/-- The three orders of ids and the two orders of keys agree, so that a cursor names the
same rows in each, and a walk by cursor neither skips a row nor repeats one. -/
theorem cursor_order :
    (∀ left right : AssetId,
      compareText left.toHex right.toHex = left.cmp right ∧
        left.cmp right = compare left.number right.number) ∧
    (∀ left right : BondKey,
      left.1.cmp right.1 =
        (compare left.numbers.1 right.numbers.1).then
          (compare left.numbers.2 right.numbers.2)) ∧
    (Std.TransCmp MirrorBondKey.cmp ∧ Std.LawfulEqCmp MirrorBondKey.cmp) ∧
    (∀ raw key, MirrorBondStatesParams.normalizeBondKey raw = .ok key →
      MirrorBondStatesParams.CanonicalKey key) ∧
    (∀ key : BondKey, MirrorBondStatesParams.normalizeBondKey key.1 = .ok key.1) ∧
    (∀ (cursor : Option BondKey) (limit : Option UInt32),
      LimitWithin mirrorBondStatesMaxLimit limit →
        let request : MirrorBondStatesParams := ⟨cursor.map Subtype.val, limit⟩
        request.validated = .ok request ∧ 0 < request.effectiveLimit) ∧
    (∀ (cursor : Option BondKey) (rows : List BondRow),
      rowsAfter BondRow.key BondKey.cmp cursor rows =
        rowsAfter BondRow.key BondKey.numericCmp cursor rows) ∧
    (∀ (limit : ℕ+) (snapshots : List BondSet),
      Ascending BondRow.key BondKey.cmp
          (walk BondRow.key BondKey.cmp limit none (snapshots.map Subtype.val)).flatten ∧
        (finishes BondRow.key BondKey.cmp limit none (snapshots.map Subtype.val) = true →
          ∀ row, (∀ bonds ∈ snapshots, row ∈ bonds.1) →
            row ∈ (walk BondRow.key BondKey.cmp limit none
              (snapshots.map Subtype.val)).flatten)) ∧
    ∀ (limit : ℕ+) (bonds : BondSet),
      finishes BondRow.key BondKey.cmp limit none
          (List.replicate (bonds.1.length + 1) bonds.1) = true ∧
        (walk BondRow.key BondKey.cmp limit none
          (List.replicate (bonds.1.length + 1) bonds.1)).flatten = bonds.1 := by
  refine ⟨?_, ?_, ⟨inferInstance, inferInstance⟩, ?_, BondKey.normalizeBondKey_self, ?_, ?_, ?_,
    ?_⟩
  · intro left right
    exact ⟨(left.compareText_toHex right).trans (left.cmp_eq_number right).symm,
      left.cmp_eq_number right⟩
  · intro left right
    exact congrFun₂ BondKey.cmp_eq_numericCmp left right
  · intro raw key
    exact BondKey.canonicalKey_of_normalize
  · intro cursor limit within
    exact BondKey.validated_resume cursor within
  · intro cursor rows
    rw [BondKey.cmp_eq_numericCmp]
  · intro limit snapshots
    have ascending : ∀ rows ∈ snapshots.map Subtype.val,
        Ascending BondRow.key BondKey.cmp rows := by
      intro rows member
      rcases List.mem_map.mp member with ⟨bonds, _, rfl⟩
      exact bonds.2
    refine ⟨(walk_ascending limit.pos ascending none).1, ?_⟩
    intro ends row present
    apply mem_walk_of_finishes limit.pos ascending ends _ rfl
    intro rows member
    rcases List.mem_map.mp member with ⟨bonds, inside, rfl⟩
    exact present bonds inside
  · intro limit bonds
    exact walk_replicate limit.pos bonds.2 (Nat.lt_succ_self _)

end ControlInterface
