import ControlInterface.Params.Collateral

/-!
# What the validating types accept

The nine params types that check themselves, seen through what they check: texts that
stand for ids or keys, and a page size.  A type accepts params exactly when every one of
these is well formed, and then it strips the prefixes and changes nothing else.
-/

namespace ControlInterface

open Serde Text

/-! ## Spellings -/

/-- The text is a given number of lowercase hexadecimal digits, with or without one `0x`
before them. -/
def SpellsHex (length : Nat) (text : String) : Prop :=
  ∃ canonical, CanonicalHex length canonical ∧ (text = canonical ∨ text = "0x" ++ canonical)

theorem spellsHex_iff {length : Nat} {text : String} :
    SpellsHex length text ↔ CanonicalHex length (unprefixed text) := by
  constructor
  · intro spells
    rcases spells with ⟨canonical, isCanonical, rfl | rfl⟩
    · rwa [unprefixed_of_isLowerHex isCanonical.2]
    · rwa [unprefixed_append]
  · intro canonical
    exact ⟨_, canonical, eq_or_eq_prefixed text⟩

/-- Normalization accepts the spellings, and strips the prefix. -/
theorem normalizeHex_eq_some_iff_spellsHex {length : Nat} {text result : String} :
    normalizeHex length text = some result ↔ SpellsHex length text ∧ result = unprefixed text := by
  rw [normalizeHex_eq_some_iff, spellsHex_iff]
  constructor
  · intro normal
    rcases normal with ⟨rfl, canonical⟩
    exact ⟨canonical, rfl⟩
  · intro spells
    rcases spells with ⟨canonical, rfl⟩
    exact ⟨rfl, canonical⟩

/-- A list is accepted when each of its elements is. -/
theorem normalizes_iff {length : Nat} {values results : List String} :
    Normalizes (normalizeHex length) values results ↔
      (∀ value ∈ values, SpellsHex length value) ∧ results = values.map unprefixed := by
  simp only [Normalizes, normalizeHex_eq_some_iff_spellsHex]
  induction values generalizing results with
  | nil => simp
  | cons value rest ih =>
      simp only [List.forall₂_cons_left_iff, ih, List.forall_mem_cons, List.map_cons]
      constructor
      · intro pointwise
        rcases pointwise with ⟨_, _, ⟨spells, rfl⟩, ⟨spellsRest, rfl⟩, rfl⟩
        exact ⟨⟨spells, spellsRest⟩, rfl⟩
      · intro every
        rcases every with ⟨⟨spells, spellsRest⟩, rfl⟩
        exact ⟨_, _, ⟨spells, rfl⟩, ⟨spellsRest, rfl⟩, rfl⟩

theorem normalCursor_iff {cursor result : Option String} :
    NormalCursor cursor result ↔
      (∀ id ∈ cursor, SpellsHex coinIdHexLen id) ∧ result = cursor.map unprefixed := by
  cases cursor with
  | none => cases result <;> simp [NormalCursor]
  | some id =>
      cases result with
      | none => simp [NormalCursor]
      | some normal =>
          simp [NormalCursor, normalizeCoinId, normalizeHex_eq_some_iff_spellsHex]

/-- Both halves of a bond key without their prefixes. -/
def MirrorBondKey.unprefixed (key : MirrorBondKey) : MirrorBondKey where
  storeId := Text.unprefixed key.storeId
  root := Text.unprefixed key.root

theorem normalAfter_iff {cursor result : Option MirrorBondKey} :
    MirrorBondStatesParams.NormalAfter cursor result ↔
      (∀ key ∈ cursor, SpellsHex coinIdHexLen key.storeId ∧ SpellsHex coinIdHexLen key.root) ∧
        result = cursor.map MirrorBondKey.unprefixed := by
  cases cursor with
  | none => cases result <;> simp [MirrorBondStatesParams.NormalAfter]
  | some key =>
      cases result with
      | none => simp [MirrorBondStatesParams.NormalAfter]
      | some normal =>
          rcases normal with ⟨storeId, root⟩
          simp [MirrorBondStatesParams.NormalAfter, MirrorBondStatesParams.NormalKey,
            normalizeCoinId, normalizeHex_eq_some_iff_spellsHex, MirrorBondKey.unprefixed]
          tauto

theorem CoinIdParams.validated_iff {S : Type} [CoinIdParams S] {params result : S} :
    SelfValidating.validated params = .ok result ↔
      (∀ text ∈ [equiv params], SpellsHex coinIdHexLen text) ∧
        result = equiv.symm (Text.unprefixed (equiv params)) := by
  refine CoinIdParams.normalize_eq_ok_iff.trans ?_
  rw [normalizeCoinId, normalizeHex_eq_some_iff_spellsHex, List.forall_mem_singleton,
    Equiv.eq_symm_apply]

theorem PublicKeysParams.validated_iff {S : Type} [PublicKeysParams S] {params result : S} :
    SelfValidating.validated params = .ok result ↔
      (∀ key ∈ equiv params, SpellsHex publicKeyHexLen key) ∧
        result = equiv.symm ((equiv params).map Text.unprefixed) := by
  refine PublicKeysParams.normalize_eq_ok_iff.trans ?_
  rw [normalizePublicKey, normalizes_iff, Equiv.eq_symm_apply]

/-! ## The validating types -/

/-- The params types that check themselves. -/
inductive ValidatingParams where
  | walletCoinById
  | walletCoinSpend
  | walletCoinsByParent
  | walletCoins
  | walletWatch
  | walletUnwatch
  | walletReservationsReserve
  | mirrorBondStates
  | spendsList

namespace ValidatingParams

abbrev Params : ValidatingParams → Type
  | .walletCoinById => WalletCoinByIdParams
  | .walletCoinSpend => WalletCoinSpendParams
  | .walletCoinsByParent => WalletCoinsByParentParams
  | .walletCoins => WalletCoinsParams
  | .walletWatch => WalletWatchParams
  | .walletUnwatch => WalletUnwatchParams
  | .walletReservationsReserve => WalletReservationsReserveParams
  | .mirrorBondStates => MirrorBondStatesParams
  | .spendsList => SpendsListParams

instance : (kind : ValidatingParams) → SelfValidating kind.Params
  | .walletCoinById => inferInstanceAs (SelfValidating WalletCoinByIdParams)
  | .walletCoinSpend => inferInstanceAs (SelfValidating WalletCoinSpendParams)
  | .walletCoinsByParent => inferInstanceAs (SelfValidating WalletCoinsByParentParams)
  | .walletCoins => inferInstanceAs (SelfValidating WalletCoinsParams)
  | .walletWatch => inferInstanceAs (SelfValidating WalletWatchParams)
  | .walletUnwatch => inferInstanceAs (SelfValidating WalletUnwatchParams)
  | .walletReservationsReserve => inferInstanceAs (SelfValidating WalletReservationsReserveParams)
  | .mirrorBondStates => inferInstanceAs (SelfValidating MirrorBondStatesParams)
  | .spendsList => inferInstanceAs (SelfValidating SpendsListParams)

/-- The texts the type checks, in the order of the fields. -/
def hexTexts : (kind : ValidatingParams) → kind.Params → List String
  | .walletCoinById, params => [params.coinId]
  | .walletCoinSpend, params => [params.coinId]
  | .walletCoinsByParent, params => params.parentCoinId :: params.afterCoinId.toList
  | .walletCoins, params => params.afterCoinId.toList
  | .walletWatch, params => params.publicKeys
  | .walletUnwatch, params => params.publicKeys
  | .walletReservationsReserve, params => params.coinIds
  | .mirrorBondStates, params => params.after.toList.flatMap fun key => [key.storeId, key.root]
  | .spendsList, _ => []

/-- The number of digits each of these texts must have. -/
def hexLength : ValidatingParams → Nat
  | .walletWatch | .walletUnwatch => 96
  | _ => 64

/-- The page size, where the type has one. -/
def limit : (kind : ValidatingParams) → kind.Params → Option UInt32
  | .walletCoinsByParent, params => params.limit
  | .walletCoins, params => params.limit
  | .mirrorBondStates, params => params.limit
  | .spendsList, params => params.limit
  | _, _ => none

/-- The largest page size. -/
def maxLimit : ValidatingParams → UInt32
  | .spendsList => 500
  | _ => 1000

/-- The params without the prefixes of the texts the type checks. -/
def strip : (kind : ValidatingParams) → kind.Params → kind.Params
  | .walletCoinById, params => ⟨unprefixed params.coinId⟩
  | .walletCoinSpend, params => ⟨unprefixed params.coinId⟩
  | .walletCoinsByParent, params =>
      { params with
        parentCoinId := unprefixed params.parentCoinId
        afterCoinId := params.afterCoinId.map unprefixed }
  | .walletCoins, params => { params with afterCoinId := params.afterCoinId.map unprefixed }
  | .walletWatch, params => ⟨params.publicKeys.map unprefixed⟩
  | .walletUnwatch, params => ⟨params.publicKeys.map unprefixed⟩
  | .walletReservationsReserve, params => { params with coinIds := params.coinIds.map unprefixed }
  | .mirrorBondStates, params =>
      { params with after := params.after.map MirrorBondKey.unprefixed }
  | .spendsList, params => params

variable {kind : ValidatingParams} {params result : kind.Params}

/-- Every text is a spelling of an id or key, and the page size is within the bounds. -/
def WellFormed (kind : ValidatingParams) (params : kind.Params) : Prop :=
  (∀ text ∈ kind.hexTexts params, SpellsHex kind.hexLength text) ∧
    LimitWithin kind.maxLimit (kind.limit params)

theorem hexTexts_strip (params : kind.Params) :
    kind.hexTexts (kind.strip params) = (kind.hexTexts params).map unprefixed := by
  cases kind with
  | walletCoinsByParent => cases after : params.afterCoinId <;> simp [hexTexts, strip, after]
  | walletCoins => cases after : params.afterCoinId <;> simp [hexTexts, strip, after]
  | mirrorBondStates =>
      cases after : params.after <;> simp [hexTexts, strip, after, MirrorBondKey.unprefixed]
  | _ => rfl

theorem wellFormed_iff_of_unpaged (unpaged : kind.limit params = none) :
    kind.WellFormed params ↔ ∀ text ∈ kind.hexTexts params, SpellsHex kind.hexLength text := by
  simp [WellFormed, unpaged, LimitWithin]

/-- The constructor accepts well-formed params, and strips them. -/
theorem validated_eq_ok_iff :
    SelfValidating.validated params = .ok result ↔
      kind.WellFormed params ∧ result = kind.strip params := by
  cases kind with
  | walletCoinById =>
      rw [wellFormed_iff_of_unpaged rfl]
      exact CoinIdParams.validated_iff (S := WalletCoinByIdParams)
  | walletCoinSpend =>
      rw [wellFormed_iff_of_unpaged rfl]
      exact CoinIdParams.validated_iff (S := WalletCoinSpendParams)
  | walletWatch =>
      rw [wellFormed_iff_of_unpaged rfl]
      exact PublicKeysParams.validated_iff (S := WalletWatchParams)
  | walletUnwatch =>
      rw [wellFormed_iff_of_unpaged rfl]
      exact PublicKeysParams.validated_iff (S := WalletUnwatchParams)
  | walletReservationsReserve =>
      rw [wellFormed_iff_of_unpaged rfl]
      refine WalletReservationsReserveParams.normalize_eq_ok_iff.trans ?_
      simp only [normalizeCoinId, normalizes_iff]
      constructor
      · intro checked
        rcases checked with ⟨_, ⟨spells, rfl⟩, rfl⟩
        exact ⟨spells, rfl⟩
      · intro checked
        rcases checked with ⟨spells, rfl⟩
        exact ⟨_, ⟨spells, rfl⟩, rfl⟩
  | walletCoins =>
      refine WalletCoinsParams.normalize_eq_ok_iff.trans ?_
      simp only [normalCursor_iff, WellFormed, hexTexts, Option.mem_toList]
      constructor
      · intro checked
        rcases checked with ⟨_, ⟨⟨cursor, rfl⟩, within⟩, rfl⟩
        exact ⟨⟨cursor, within⟩, rfl⟩
      · intro checked
        rcases checked with ⟨⟨cursor, within⟩, rfl⟩
        exact ⟨_, ⟨⟨cursor, rfl⟩, within⟩, rfl⟩
  | walletCoinsByParent =>
      refine WalletCoinsByParentParams.normalize_eq_ok_iff.trans ?_
      simp only [normalizeCoinId, normalizeHex_eq_some_iff_spellsHex, normalCursor_iff, WellFormed,
        hexTexts, List.forall_mem_cons, Option.mem_toList]
      constructor
      · intro checked
        rcases checked with ⟨_, ⟨parent, rfl⟩, _, ⟨⟨cursor, rfl⟩, within⟩, rfl⟩
        exact ⟨⟨⟨parent, cursor⟩, within⟩, rfl⟩
      · intro checked
        rcases checked with ⟨⟨⟨parent, cursor⟩, within⟩, rfl⟩
        exact ⟨_, ⟨parent, rfl⟩, _, ⟨⟨cursor, rfl⟩, within⟩, rfl⟩
  | mirrorBondStates =>
      refine MirrorBondStatesParams.validated_eq_ok_iff.trans ?_
      simp only [normalAfter_iff, WellFormed, hexTexts, List.forall_mem_flatMap, Option.mem_toList,
        List.forall_mem_cons, List.not_mem_nil, false_imp_iff, implies_true, and_true]
      constructor
      · intro checked
        rcases checked with ⟨within, _, ⟨halves, rfl⟩, rfl⟩
        exact ⟨⟨halves, within⟩, rfl⟩
      · intro checked
        rcases checked with ⟨⟨halves, within⟩, rfl⟩
        exact ⟨within, _, ⟨halves, rfl⟩, rfl⟩
  | spendsList =>
      refine SpendsListParams.validated_eq_ok_iff.trans ?_
      constructor
      · intro checked
        rcases checked with ⟨within, rfl⟩
        exact ⟨⟨by simp [hexTexts], within⟩, rfl⟩
      · intro checked
        rcases checked with ⟨⟨_, within⟩, rfl⟩
        exact ⟨within, rfl⟩

/-! ## The two paths -/

/-- The object has the fields of the params: each is what its member, or the lack of one,
is read as. -/
def Carries (kind : ValidatingParams) (map : JsonMap) (params : kind.Params) : Prop :=
  (ShadowStruct.de (S := kind.Params)).fromMap .value map = .ok (ShadowStruct.toTuple params)

/-- An object is deserialized as the constructor says of its fields. -/
theorem fromValue_eq_ok_iff_of_carries {map : JsonMap} (carries : kind.Carries map params) :
    fromValue (.object map) = .ok result ↔ SelfValidating.validated params = .ok result := by
  have read : fromValue (.object map) =
      (ShadowStruct.check (ShadowStruct.toTuple params) : Except DeError kind.Params) := by
    rw [fromValue, ShadowStruct.fromSource_object, show _ = _ from carries, ok_bind]
  rw [read, SelfValidating.check_eq_ok_iff]

theorem fromValue_toValue_eq_ok_iff :
    fromValue (toValue params) = .ok result ↔ SelfValidating.validated params = .ok result := by
  rw [fromValue, ShadowStruct.fromSource_toValue, SelfValidating.check_eq_ok_iff]

end ValidatingParams

/-- Two types of public keys are read of the same values, with the same keys. -/
theorem PublicKeysParams.fromValue_congr {S T : Type} [PublicKeysParams S] [PublicKeysParams T]
    {json : Json} {keys : List String} (read : fromValue json = .ok (equiv.symm keys : S)) :
    fromValue json = .ok (equiv.symm keys : T) := by
  rcases bind_eq_ok.mp read with ⟨⟨raw, ⟨⟩⟩, readRaw, checked⟩
  have normal := PublicKeysParams.normalize_eq_ok_iff.mp checked
  simp only [Equiv.apply_symm_apply] at normal
  refine bind_eq_ok.mpr ⟨(raw, ()), Fields.fromStruct_eq_ok_congr.mp readRaw, ?_⟩
  apply PublicKeysParams.normalize_eq_ok_iff.mpr
  simpa only [Equiv.apply_symm_apply] using normal

/-- Deserialization and the constructor accept the same fields, which are the well-formed
ones, and give the same value; enrolment and its reverse are read of the same values. -/
theorem validation_paths_agree :
    (∀ (kind : ValidatingParams) (params result : kind.Params),
      (∀ map, kind.Carries map params →
        (fromValue (.object map) = .ok result ↔ SelfValidating.validated params = .ok result)) ∧
      (fromValue (toValue params) = .ok result ↔ SelfValidating.validated params = .ok result) ∧
      (SelfValidating.validated params = .ok result ↔
        kind.WellFormed params ∧ result = kind.strip params) ∧
      (SelfValidating.validated params = .ok result →
        SelfValidating.validated result = .ok result ∧
          kind.hexTexts result = (kind.hexTexts params).map unprefixed)) ∧
    ∀ (json : Json) (keys : List String),
      fromValue json = .ok (⟨keys⟩ : WalletWatchParams) ↔
        fromValue json = .ok (⟨keys⟩ : WalletUnwatchParams) := by
  constructor
  · intro kind params result
    refine ⟨?_, ?_, ?_, ?_⟩
    · intro map carries
      exact ValidatingParams.fromValue_eq_ok_iff_of_carries carries
    · exact ValidatingParams.fromValue_toValue_eq_ok_iff
    · exact ValidatingParams.validated_eq_ok_iff
    · intro accepted
      rcases ValidatingParams.validated_eq_ok_iff.mp accepted with ⟨_, stripped⟩
      refine ⟨SelfValidating.validated_idem accepted, ?_⟩
      rw [stripped, ValidatingParams.hexTexts_strip]
  · intro json keys
    constructor
    · intro read
      exact PublicKeysParams.fromValue_congr (S := WalletWatchParams) read
    · intro read
      exact PublicKeysParams.fromValue_congr (S := WalletUnwatchParams) read

end ControlInterface
