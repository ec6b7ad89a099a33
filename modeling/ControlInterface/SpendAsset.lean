import ControlInterface.Asset
import ControlInterface.Results.Wallet

/-!
# The asset of an automated spend

The record of automated spends has an asset type of its own: a case for XCH, a case
for $DIG, and a CAT with a text for its asset id.  Values are compared case by case
and text by text, so this module relates them to the tokens they name.
-/

namespace ControlInterface

open Serde Asset

namespace SpendAsset

/-! ## The token a value names -/

/-- The JSON value gives the text for a key of an asset, by name or by position. -/
def Gives (value : Json) (key text : String) : Prop :=
  value.supplied ["asset", "asset_id"] key = some (.string text)

/-- The JSON value is tagged as a CAT and gives the text as its asset id. -/
def GivesCat (value : Json) (text : String) : Prop :=
  Gives value "asset" "cat" ∧ Gives value "asset_id" text

/-- What a JSON value means as the name of a token. -/
inductive Names : Json → Token → Prop where
  | xch {value : Json} : Gives value "asset" "xch" → Names value .xch
  | dig {value : Json} {id : Nat} :
      Gives value "asset" "dig" → SpellsId digAssetIdHex id → Names value (.cat id)
  | cat {value : Json} {text : String} {id : Nat} :
      GivesCat value text → SpellsId text id → Names value (.cat id)

/-- The JSON value spells the asset. -/
def Spells (value : Json) : SpendAsset → Prop
  | .xch => Gives value "asset" "xch"
  | .dig => Gives value "asset" "dig"
  | .cat text => GivesCat value text

/-- The asset stands for the token.  The text of a CAT need not stand for any. -/
def Denotes : SpendAsset → Token → Prop
  | .xch, token => token = .xch
  | .dig, token => ∃ id, SpellsId digAssetIdHex id ∧ token = .cat id
  | .cat text, token => ∃ id, SpellsId text id ∧ token = .cat id

section

variable {value : Json} {asset : SpendAsset}

theorem Gives.unique {key left right : String} (givesLeft : Gives value key left)
    (givesRight : Gives value key right) : left = right := by
  simpa using givesLeft.symm.trans givesRight

/-- A value is read as the asset it spells. -/
theorem spells_of_fromValue (read : fromValue value = .ok asset) : Spells value asset := by
  rcases TaggedEnum.exists_filled read with ⟨content, untagged, filled⟩
  rcases supplied_of_untag untagged ["asset_id"] with ⟨tagged, rest⟩
  cases asset with
  | xch => exact tagged
  | dig => exact tagged
  | cat text =>
      refine ⟨tagged, ?_⟩
      rcases filled.1.exists_given rfl rfl with ⟨given, supplied, readText⟩
      rw [fromSource_string_eq_ok.mp readText] at supplied
      exact (rest "asset_id" (by decide)).trans supplied

/-- A value spells one asset at most. -/
theorem Spells.unique (spells : Spells value asset) {other : SpendAsset}
    (spellsOther : Spells value other) : asset = other := by
  cases asset with
  | xch =>
      cases other with
      | xch => rfl
      | dig => exact absurd (Gives.unique spells spellsOther) (by decide)
      | cat _ => exact absurd (Gives.unique spells spellsOther.1) (by decide)
  | dig =>
      cases other with
      | xch => exact absurd (Gives.unique spells spellsOther) (by decide)
      | dig => rfl
      | cat _ => exact absurd (Gives.unique spells spellsOther.1) (by decide)
  | cat text =>
      cases other with
      | xch => exact absurd (Gives.unique spells.1 spellsOther) (by decide)
      | dig => exact absurd (Gives.unique spells.1 spellsOther) (by decide)
      | cat _ => rw [Gives.unique spells.2 spellsOther.2]

theorem Spells.gives_dig_iff (spells : Spells value asset) :
    Gives value "asset" "dig" ↔ asset = .dig := by
  constructor
  · intro gives
    exact spells.unique gives
  · intro same
    subst same
    exact spells

theorem Spells.givesCat_iff (spells : Spells value asset) {text : String} :
    GivesCat value text ↔ asset = .cat text := by
  constructor
  · intro gives
    exact spells.unique gives
  · intro same
    subst same
    exact spells

/-- A value names the token that the asset it spells stands for, and no other. -/
theorem Spells.names_iff (spells : Spells value asset) {token : Token} :
    Names value token ↔ Denotes asset token := by
  constructor
  · intro names
    cases names with
    | xch tagged =>
        obtain rfl : asset = .xch := spells.unique tagged
        rfl
    | dig tagged spelled =>
        obtain rfl := spells.gives_dig_iff.mp tagged
        exact ⟨_, spelled, rfl⟩
    | cat tagged spelled =>
        obtain rfl := spells.givesCat_iff.mp tagged
        exact ⟨_, spelled, rfl⟩
  · intro denotes
    cases asset with
    | xch =>
        cases denotes
        exact .xch spells
    | dig =>
        rcases denotes with ⟨id, spelled, rfl⟩
        exact .dig spells spelled
    | cat text =>
        rcases denotes with ⟨id, spelled, rfl⟩
        exact .cat spells spelled

end

theorem denotes_dig_iff {token : Token} :
    Denotes .dig token ↔ Denotes (.cat digAssetIdHex) token :=
  Iff.rfl

/-- Two texts stand for a common token when they spell one asset id. -/
theorem exists_denotes_iff {left right : String} :
    (∃ token, Denotes (.cat left) token ∧ Denotes (.cat right) token) ↔
      ∃ id, SpellsId left id ∧ SpellsId right id := by
  constructor
  · intro common
    rcases common with ⟨_, ⟨id, spellsLeft, rfl⟩, _, spellsRight, same⟩
    cases same
    exact ⟨id, spellsLeft, spellsRight⟩
  · intro shared
    rcases shared with ⟨id, spellsLeft, spellsRight⟩
    exact ⟨.cat id, ⟨id, spellsLeft, rfl⟩, id, spellsRight, rfl⟩

/-! ## Where equality and the token disagree -/

/-- The first value is $DIG by its tag, and the second by its asset id. -/
def DigBothWays (left right : Json) : Prop :=
  Gives left "asset" "dig" ∧
    ∃ text id, GivesCat right text ∧ SpellsId digAssetIdHex id ∧ SpellsId text id

/-- The values give one asset id in two texts. -/
def Respelled (left right : Json) : Prop :=
  ∃ first second id, GivesCat left first ∧ GivesCat right second ∧ first ≠ second ∧
    SpellsId first id ∧ SpellsId second id

/-- The values give one text that is no asset id. -/
def Nameless (left right : Json) : Prop :=
  ∃ text, GivesCat left text ∧ GivesCat right text ∧ ¬ IsIdText text

/-- Two values are read as one asset just when they name one token, unless both are $DIG
in its two ways, spell one asset id in two texts, or share a text that is no asset id. -/
theorem eq_iff_names_iff {left right : Json} {leftAsset rightAsset : SpendAsset}
    (readLeft : fromValue left = .ok leftAsset) (readRight : fromValue right = .ok rightAsset) :
    (leftAsset = rightAsset ↔ ∃ token, Names left token ∧ Names right token) ↔
      ¬ DigBothWays left right ∧ ¬ DigBothWays right left ∧ ¬ Respelled left right ∧
        ¬ Nameless left right := by
  have spellsLeft := spells_of_fromValue readLeft
  have spellsRight := spells_of_fromValue readRight
  simp only [spellsLeft.names_iff, spellsRight.names_iff, DigBothWays, Respelled, Nameless,
    spellsLeft.gives_dig_iff, spellsRight.gives_dig_iff, spellsLeft.givesCat_iff,
    spellsRight.givesCat_iff]
  cases leftAsset with
  | xch => cases rightAsset <;> simp [Denotes]
  | dig =>
      cases rightAsset with
      | xch => simp [Denotes]
      | dig =>
          simp only [denotes_dig_iff, exists_denotes_iff]
          simp [exists_spellsId_digAssetIdHex]
      | cat text =>
          simp only [denotes_dig_iff, exists_denotes_iff]
          simp
  | cat text =>
      cases rightAsset with
      | xch => simp [Denotes]
      | dig =>
          simp only [denotes_dig_iff, exists_denotes_iff]
          simp [and_comm]
      | cat other =>
          rw [exists_denotes_iff]
          by_cases same : text = other
          · subst same
            simp [isIdText_iff]
          · simp [same, Ne.symm same]

/-- $DIG by its tag. -/
def digByTag : Json := .object (.ofList [("asset", .string "dig")])

/-- $DIG by its asset id. -/
def digById : Json :=
  .object (.ofList [("asset", .string "cat"), ("asset_id", .string digAssetIdHex)])

theorem eq_iff_names_iff_digById :
    (cat digAssetIdHex = cat digAssetIdHex ↔ ∃ token, Names digById token ∧ Names digById token) ↔
      ¬ DigBothWays digById digById ∧ ¬ DigBothWays digById digById ∧
        ¬ Respelled digById digById ∧ ¬ Nameless digById digById :=
  eq_iff_names_iff rfl rfl

/-- The two values of $DIG name one token and are read as two assets. -/
theorem digByTag_ne_digById :
    fromValue digByTag = .ok dig ∧ fromValue digById = .ok (cat digAssetIdHex) ∧
      ¬ (dig = cat digAssetIdHex ↔ ∃ token, Names digByTag token ∧ Names digById token) := by
  rcases exists_spellsId_digAssetIdHex with ⟨id, spelled⟩
  refine ⟨rfl, rfl, fun same => ?_⟩
  have named : ∃ token, Names digByTag token ∧ Names digById token :=
    ⟨.cat id, .dig rfl spelled, .cat ⟨rfl, rfl⟩ spelled⟩
  cases same.mpr named

end SpendAsset

end ControlInterface
