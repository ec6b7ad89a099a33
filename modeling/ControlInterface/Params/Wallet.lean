import ControlInterface.Asset
import ControlInterface.Params.Basic

/-!
# Params of the wallet methods

The params types of the wallet reads, of enrolment and of the coin reservations.
Most of them check themselves: the ids they carry are normalized to lowercase
digits without a prefix, and the size of a page is bounded.
-/

namespace ControlInterface

open Serde

/-! ## Checks the types share -/

section Checks

variable {ε : Type}

/-- Normalize a coin id, or turn the value down. -/
def checkCoinId (refuse : String → ε) (message : String) (coinId : String) : Except ε String :=
  okOr (refuse message) (normalizeCoinId coinId)

theorem checkCoinId_eq_ok_iff {refuse : String → ε} {message coinId normalized : String} :
    checkCoinId refuse message coinId = .ok normalized ↔
      normalizeCoinId coinId = some normalized := by
  rw [checkCoinId, okOr_eq_ok_iff]

/-- Each value of the second list is the normal form of the one in the first. -/
def Normalizes (normalize : String → Option String) : List String → List String → Prop :=
  List.Forall₂ fun value normalized => normalize value = some normalized

variable {length : Nat}

/-- Normal forms are canonical. -/
theorem Normalizes.canonical {values results : List String}
    (normal : Normalizes (normalizeHex length) values results) :
    ∀ result ∈ results, CanonicalHex length result := by
  induction normal with
  | nil => simp
  | cons head _ ih => exact List.forall_mem_cons.mpr ⟨(normalizeHex_idem head).1, ih⟩

/-- A list of normal forms is its own list of normal forms. -/
theorem Normalizes.idem {values results : List String}
    (normal : Normalizes (normalizeHex length) values results) :
    Normalizes (normalizeHex length) results results := by
  induction normal with
  | nil => exact .nil
  | cons head _ ih => exact .cons (normalizeHex_idem head).2 ih

/-- Normalize the ids of a list, or turn the value down. -/
def checkIds (normalize : String → Option String) (error : ε) (ids : List String) :
    Except ε (List String) :=
  ids.mapM fun id => okOr error (normalize id)

theorem checkIds_eq_ok_iff {normalize : String → Option String} {error : ε}
    {ids normalized : List String} :
    checkIds normalize error ids = .ok normalized ↔ Normalizes normalize ids normalized := by
  simp only [checkIds, list_mapM_eq_ok_iff, okOr_eq_ok_iff, Normalizes]

end Checks

/-! ## Pages -/

/-- The largest page of coins. -/
def coinsByParentMaxLimit : UInt32 := 1000

def coinsByParentDefaultLimit : UInt32 := 100

def coinsMaxLimit : UInt32 := coinsByParentMaxLimit

def coinsDefaultLimit : UInt32 := coinsByParentDefaultLimit

def isLegalPage (limit : UInt32) : Bool := decide (1 ≤ limit ∧ limit ≤ coinsByParentMaxLimit)

def afterCoinIdError : String := "after_coin_id must be lowercase 64-hex, optionally 0x-prefixed"

def pageLimitError : String := "limit must be between 1 and 1000"

/-- The cursor and the size of a page of coins, checked. -/
def checkPage {ε : Type} (refuse : String → ε) (afterCoinId : Option String)
    (limit : Option UInt32) : Except ε (Option String) := do
  let afterCoinId ← mapTranspose (checkCoinId refuse afterCoinIdError) afterCoinId
  if limit.elim true isLegalPage then return afterCoinId
  else .error (refuse pageLimitError)

/-- A page size that is absent or between 1 and the given cap. -/
def LimitWithin (cap : UInt32) (limit : Option UInt32) : Prop :=
  ∀ size ∈ limit, 1 ≤ size ∧ size ≤ cap

/-- The page size in force is never zero and never above the cap. -/
theorem LimitWithin.getD {cap fallback : UInt32} {limit : Option UInt32}
    (within : LimitWithin cap limit) (fallbackWithin : 1 ≤ fallback ∧ fallback ≤ cap) :
    1 ≤ limit.getD fallback ∧ limit.getD fallback ≤ cap := by
  cases limit with
  | none => exact fallbackWithin
  | some size => exact within size rfl

/-- The second cursor is the normal form of the first, or both are absent. -/
def NormalCursor : Option String → Option String → Prop :=
  Option.Rel fun id normalized => normalizeCoinId id = some normalized

theorem NormalCursor.idem {cursor result : Option String} (normal : NormalCursor cursor result) :
    NormalCursor result result := by
  cases normal with
  | none => exact .none
  | some normal => exact .some (normalizeHex_idem normal).2

theorem NormalCursor.canonical {cursor result : Option String}
    (normal : NormalCursor cursor result) : ∀ id ∈ result, CanonicalHex coinIdHexLen id := by
  cases normal with
  | none => simp
  | some normal => simpa using (normalizeHex_idem normal).1

theorem checkPage_eq_ok_iff {ε : Type} {refuse : String → ε} {afterCoinId : Option String}
    {limit : Option UInt32} {result : Option String} :
    checkPage refuse afterCoinId limit = .ok result ↔
      NormalCursor afterCoinId result ∧ LimitWithin coinsByParentMaxLimit limit := by
  have legal : limit.elim true isLegalPage = true ↔
      LimitWithin coinsByParentMaxLimit limit := by
    cases limit <;> simp [LimitWithin, isLegalPage]
  have cursor : mapTranspose (checkCoinId refuse afterCoinIdError) afterCoinId = .ok result ↔
      NormalCursor afterCoinId result := by
    simp only [mapTranspose_eq_ok_iff, checkCoinId_eq_ok_iff, NormalCursor]
  rw [checkPage, bind_eq_ok, ← cursor, ← legal]
  constructor
  · intro checked
    rcases checked with ⟨normalized, normal, page⟩
    split at page
    next within =>
      cases page
      exact ⟨normal, within⟩
    next => cases page
  · intro both
    rcases both with ⟨normal, within⟩
    exact ⟨result, normal, by rw [if_pos within]; rfl⟩

/-! ## Balances and coins -/

/-- `control.wallet.balance`: the address and the asset to sum up. -/
structure WalletBalanceParams where
  address : String
  asset : Asset

instance : DeriveStruct WalletBalanceParams where
  name := "WalletBalanceParams"
  types := [String, Asset]
  fields := .plain "address" <| .plain "asset" .nil
  equiv := ⟨fun params => (params.address, params.asset, ()),
    fun (address, asset, ()) => ⟨address, asset⟩, fun _ => rfl, fun _ => rfl⟩

/-- `control.wallet.coins`: a page of the coins of an address. -/
structure WalletCoinsParams where
  address : String
  asset : Asset
  afterCoinId : Option String
  limit : Option UInt32

namespace WalletCoinsParams

/-- What `deserialize` and `validated` have in common: they differ in how they refuse. -/
def normalize {ε : Type} (refuse : String → ε) (params : WalletCoinsParams) :
    Except ε WalletCoinsParams := do
  let afterCoinId ← checkPage refuse params.afterCoinId params.limit
  return { address := params.address, asset := params.asset, afterCoinId, limit := params.limit }

/-- The check of `Deserialize`, once the private struct is read. -/
def deserialize (raw : WalletCoinsParams) : Except DeError WalletCoinsParams :=
  normalize refused raw

/-- The validating constructor. -/
def validated (params : WalletCoinsParams) : Except ControlError WalletCoinsParams :=
  normalize invalid params

def effectiveLimit (params : WalletCoinsParams) : UInt32 := params.limit.getD coinsDefaultLimit

theorem normalize_eq_ok_iff {ε : Type} {refuse : String → ε} {params result : WalletCoinsParams} :
    params.normalize refuse = .ok result ↔
      ∃ afterCoinId, (NormalCursor params.afterCoinId afterCoinId ∧
        LimitWithin coinsMaxLimit params.limit) ∧ { params with afterCoinId } = result := by
  simp only [normalize, bind_eq_ok, checkPage_eq_ok_iff, coinsMaxLimit, pure, Except.pure,
    Except.ok.injEq]

instance : SelfValidating WalletCoinsParams where
  name := "RawWalletCoinsParams"
  types := [String, Asset, Option String, Option UInt32]
  ser := .cons (.plain "address") <| .cons (.plain "asset") <|
    .cons (.skipNone "after_coin_id") <| .cons (.skipNone "limit") .nil
  de := .cons (.plain "address") <| .cons (.plain "asset") <|
    .cons (.default "after_coin_id" none) <| .cons (.default "limit" none) .nil
  toTuple params := (params.address, params.asset, params.afterCoinId, params.limit, ())
  check := fun (address, asset, afterCoinId, limit, ()) =>
    deserialize ⟨address, asset, afterCoinId, limit⟩
  agrees := .cons (.plain _) <| .cons (.plain _) <| .cons (.skipNone _) <| .cons (.skipNone _) .nil
  ofTuple := fun (address, asset, afterCoinId, limit, ()) => ⟨address, asset, afterCoinId, limit⟩
  validated := validated
  Contract params :=
    (∀ id ∈ params.afterCoinId, CanonicalHex coinIdHexLen id) ∧
      LimitWithin coinsMaxLimit params.limit
  toTuple_ofTuple _ := rfl
  check_eq_ok_iff := normalize_eq_ok_iff.trans normalize_eq_ok_iff.symm
  validated_idem accepted := by
    rcases normalize_eq_ok_iff.mp accepted with ⟨_, ⟨normal, within⟩, rfl⟩
    exact normalize_eq_ok_iff.mpr ⟨_, ⟨normal.idem, within⟩, rfl⟩
  contract accepted := by
    rcases normalize_eq_ok_iff.mp accepted with ⟨_, ⟨normal, within⟩, rfl⟩
    exact ⟨normal.canonical, within⟩

end WalletCoinsParams

/-! ## Coins by id -/

/-- A params type that consists of a coin id (`coin_id_params!`). -/
class CoinIdParams (S : Type) where
  /-- The name of the private struct. -/
  raw : String
  field : String
  error : String
  equiv : S ≃ String

namespace CoinIdParams

variable {S : Type} [CoinIdParams S]

/-- What `deserialize` and `validated` have in common: they differ in how they refuse. -/
def normalize {ε : Type} (refuse : String → ε) (params : S) : Except ε S := do
  let normalized ← checkCoinId refuse (error S) (equiv params)
  return equiv.symm normalized

/-- The check of `Deserialize`, once the private struct is read. -/
def deserialize (raw : S) : Except DeError S := normalize refused raw

/-- The validating constructor. -/
def validated (params : S) : Except ControlError S := normalize invalid params

theorem normalize_eq_ok_iff {ε : Type} {refuse : String → ε} {params result : S} :
    normalize refuse params = .ok result ↔
      normalizeCoinId (equiv params) = some (equiv result) := by
  simp only [normalize, bind_eq_ok, checkCoinId_eq_ok_iff, pure, Except.pure, Except.ok.injEq,
    Equiv.symm_apply_eq, exists_eq_right]

instance : SelfValidating S where
  name := raw S
  types := [String]
  ser := .cons (.plain (field S)) .nil
  de := .cons (.plain (field S)) .nil
  toTuple params := (equiv params, ())
  check := fun (coinId, ()) => deserialize (equiv.symm coinId)
  agrees := .cons (.plain _) .nil
  distinct := by simp [Fields.written]
  ofTuple := fun (coinId, ()) => equiv.symm coinId
  validated := validated
  Contract params := CanonicalHex coinIdHexLen (equiv params)
  toTuple_ofTuple := fun (coinId, ()) => by rw [Equiv.apply_symm_apply]
  check_eq_ok_iff := by
    simp only [deserialize, validated, normalize_eq_ok_iff, Equiv.apply_symm_apply, implies_true]
  validated_idem accepted :=
    normalize_eq_ok_iff.mpr (normalizeHex_idem (normalize_eq_ok_iff.mp accepted)).2
  contract accepted := (normalizeHex_idem (normalize_eq_ok_iff.mp accepted)).1

end CoinIdParams

def coinIdError : String := "coin_id must be lowercase 64-hex, optionally 0x-prefixed"

/-- `control.wallet.coinById`: the coin to look up. -/
structure WalletCoinByIdParams where
  coinId : String

instance : CoinIdParams WalletCoinByIdParams where
  raw := "RawWalletCoinByIdParams"
  field := "coin_id"
  error := coinIdError
  equiv := ⟨fun params => params.coinId, fun coinId => ⟨coinId⟩, fun _ => rfl, fun _ => rfl⟩

/-- `control.wallet.coinSpend`: the coin whose spend is wanted. -/
structure WalletCoinSpendParams where
  coinId : String

instance : CoinIdParams WalletCoinSpendParams where
  raw := "RawWalletCoinSpendParams"
  field := "coin_id"
  error := coinIdError
  equiv := ⟨fun params => params.coinId, fun coinId => ⟨coinId⟩, fun _ => rfl, fun _ => rfl⟩

/-! ## Coins by parent -/

def parentCoinIdError : String := "parent_coin_id must be lowercase 64-hex, optionally 0x-prefixed"

/-- `control.wallet.coinsByParent`: a page of the children of a coin. -/
structure WalletCoinsByParentParams where
  parentCoinId : String
  afterCoinId : Option String
  limit : Option UInt32

namespace WalletCoinsByParentParams

/-- What `deserialize` and `validated` have in common: they differ in how they refuse. -/
def normalize {ε : Type} (refuse : String → ε) (params : WalletCoinsByParentParams) :
    Except ε WalletCoinsByParentParams := do
  let parentCoinId ← checkCoinId refuse parentCoinIdError params.parentCoinId
  let afterCoinId ← checkPage refuse params.afterCoinId params.limit
  return { parentCoinId, afterCoinId, limit := params.limit }

/-- The check of `Deserialize`, once the private struct is read. -/
def deserialize (raw : WalletCoinsByParentParams) : Except DeError WalletCoinsByParentParams :=
  normalize refused raw

/-- The validating constructor. -/
def validated (params : WalletCoinsByParentParams) :
    Except ControlError WalletCoinsByParentParams := normalize invalid params

def effectiveLimit (params : WalletCoinsByParentParams) : UInt32 :=
  params.limit.getD coinsByParentDefaultLimit

theorem normalize_eq_ok_iff {ε : Type} {refuse : String → ε}
    {params result : WalletCoinsByParentParams} :
    params.normalize refuse = .ok result ↔
      ∃ parentCoinId, normalizeCoinId params.parentCoinId = some parentCoinId ∧
        ∃ afterCoinId, (NormalCursor params.afterCoinId afterCoinId ∧
          LimitWithin coinsByParentMaxLimit params.limit) ∧
          ⟨parentCoinId, afterCoinId, params.limit⟩ = result := by
  simp only [normalize, bind_eq_ok, checkCoinId_eq_ok_iff, checkPage_eq_ok_iff, pure, Except.pure,
    Except.ok.injEq]

instance : SelfValidating WalletCoinsByParentParams where
  name := "RawWalletCoinsByParentParams"
  types := [String, Option String, Option UInt32]
  ser := .cons (.plain "parent_coin_id") <| .cons (.skipNone "after_coin_id") <|
    .cons (.skipNone "limit") .nil
  de := .cons (.plain "parent_coin_id") <| .cons (.default "after_coin_id" none) <|
    .cons (.default "limit" none) .nil
  toTuple params := (params.parentCoinId, params.afterCoinId, params.limit, ())
  check := fun (parentCoinId, afterCoinId, limit, ()) =>
    deserialize ⟨parentCoinId, afterCoinId, limit⟩
  agrees := .cons (.plain _) <| .cons (.skipNone _) <| .cons (.skipNone _) .nil
  ofTuple := fun (parentCoinId, afterCoinId, limit, ()) => ⟨parentCoinId, afterCoinId, limit⟩
  validated := validated
  Contract params := CanonicalHex coinIdHexLen params.parentCoinId ∧
    (∀ id ∈ params.afterCoinId, CanonicalHex coinIdHexLen id) ∧
    LimitWithin coinsByParentMaxLimit params.limit
  toTuple_ofTuple _ := rfl
  check_eq_ok_iff := normalize_eq_ok_iff.trans normalize_eq_ok_iff.symm
  validated_idem accepted := by
    rcases normalize_eq_ok_iff.mp accepted with ⟨_, parent, _, ⟨normal, within⟩, rfl⟩
    exact normalize_eq_ok_iff.mpr
      ⟨_, (normalizeHex_idem parent).2, _, ⟨normal.idem, within⟩, rfl⟩
  contract accepted := by
    rcases normalize_eq_ok_iff.mp accepted with ⟨_, parent, _, ⟨normal, within⟩, rfl⟩
    exact ⟨(normalizeHex_idem parent).1, normal.canonical, within⟩

end WalletCoinsByParentParams

/-! ## Chain state and spends -/

/-- `control.wallet.arrivals`: the arrivals after a sequence number. -/
structure WalletArrivalsParams where
  afterSeq : UInt64
  limit : Option UInt32

instance : DeriveStruct WalletArrivalsParams where
  name := "WalletArrivalsParams"
  types := [UInt64, Option UInt32]
  fields := .default "after_seq" 0 <| .skipNone "limit" .nil
  equiv := ⟨fun params => (params.afterSeq, params.limit, ()),
    fun (afterSeq, limit, ()) => ⟨afterSeq, limit⟩, fun _ => rfl, fun _ => rfl⟩

/-- `control.wallet.peak` takes no params. -/
structure WalletPeakParams where

instance : EmptyStruct WalletPeakParams := ⟨"WalletPeakParams", ⟨⟩, fun _ => rfl⟩

/-- `control.wallet.operatorAddress` takes no params. -/
structure WalletOperatorAddressParams where

instance : EmptyStruct WalletOperatorAddressParams :=
  ⟨"WalletOperatorAddressParams", ⟨⟩, fun _ => rfl⟩

/-- `control.wallet.syncStatus` takes no params. -/
structure WalletSyncStatusParams where

instance : EmptyStruct WalletSyncStatusParams := ⟨"WalletSyncStatusParams", ⟨⟩, fun _ => rfl⟩

/-- `control.wallet.broadcast`: the signed bundle to submit. -/
structure WalletBroadcastParams where
  signedBundleHex : String

instance : DeriveStruct WalletBroadcastParams where
  name := "WalletBroadcastParams"
  types := [String]
  fields := .plain "signed_bundle_hex" .nil
  equiv := ⟨fun params => (params.signedBundleHex, ()),
    fun (signedBundleHex, ()) => ⟨signedBundleHex⟩, fun _ => rfl, fun _ => rfl⟩

/-! ## Enrolment -/

def publicKeysError : String :=
  "public_keys must each be lowercase 96-hex (a 48-byte G1 key), optionally 0x-prefixed"

/-- A params type that consists of public keys (`public_keys_params!`). -/
class PublicKeysParams (S : Type) where
  /-- The name of the private struct. -/
  raw : String
  error : String
  equiv : S ≃ List String

namespace PublicKeysParams

variable {S : Type} [PublicKeysParams S]

/-- What `deserialize` and `validated` have in common: they differ in how they refuse. -/
def normalize {ε : Type} (refuse : String → ε) (params : S) : Except ε S := do
  let publicKeys ← checkIds normalizePublicKey (refuse (error S)) (equiv params)
  return equiv.symm publicKeys

/-- The check of `Deserialize`, once the private struct is read. -/
def deserialize (raw : S) : Except DeError S := normalize refused raw

/-- The validating constructor. -/
def validated (params : S) : Except ControlError S := normalize invalid params

theorem normalize_eq_ok_iff {ε : Type} {refuse : String → ε} {params result : S} :
    normalize refuse params = .ok result ↔
      Normalizes normalizePublicKey (equiv params) (equiv result) := by
  simp only [normalize, bind_eq_ok, checkIds_eq_ok_iff, pure, Except.pure, Except.ok.injEq,
    Equiv.symm_apply_eq, exists_eq_right]

instance : SelfValidating S where
  name := raw S
  types := [List String]
  ser := .cons (.plain "public_keys") .nil
  de := .cons (.plain "public_keys") .nil
  toTuple params := (equiv params, ())
  check := fun (publicKeys, ()) => deserialize (equiv.symm publicKeys)
  agrees := .cons (.plain _) .nil
  ofTuple := fun (publicKeys, ()) => equiv.symm publicKeys
  validated := validated
  Contract params := ∀ key ∈ equiv params, CanonicalHex publicKeyHexLen key
  toTuple_ofTuple := fun (publicKeys, ()) => by rw [Equiv.apply_symm_apply]
  check_eq_ok_iff := by
    simp only [deserialize, validated, normalize_eq_ok_iff, Equiv.apply_symm_apply, implies_true]
  validated_idem accepted :=
    normalize_eq_ok_iff.mpr (normalize_eq_ok_iff.mp accepted).idem
  contract accepted := (normalize_eq_ok_iff.mp accepted).canonical

end PublicKeysParams

/-- `control.wallet.watch`: the keys to enrol. -/
structure WalletWatchParams where
  publicKeys : List String

instance : PublicKeysParams WalletWatchParams where
  raw := "RawWalletWatch"
  error := publicKeysError
  equiv := ⟨fun params => params.publicKeys, fun publicKeys => ⟨publicKeys⟩,
    fun _ => rfl, fun _ => rfl⟩

/-- `control.wallet.unwatch`: the keys to drop. -/
structure WalletUnwatchParams where
  publicKeys : List String

instance : PublicKeysParams WalletUnwatchParams where
  raw := "RawWalletUnwatch"
  error := publicKeysError
  equiv := ⟨fun params => params.publicKeys, fun publicKeys => ⟨publicKeys⟩,
    fun _ => rfl, fun _ => rfl⟩

/-- `control.wallet.watched` takes no params. -/
structure WalletWatchedParams where

instance : EmptyStruct WalletWatchedParams := ⟨"WalletWatchedParams", ⟨⟩, fun _ => rfl⟩

/-! ## Reservations -/

def coinIdsError : String :=
  "coin_ids must each be lowercase 64-hex (a 32-byte coin id), optionally 0x-prefixed"

/-- `control.wallet.reservations.held` takes no params. -/
structure WalletReservationsHeldParams where

instance : EmptyStruct WalletReservationsHeldParams :=
  ⟨"WalletReservationsHeldParams", ⟨⟩, fun _ => rfl⟩

/-- `control.wallet.reservations.reserve`: the coins to reserve, and for how long. -/
structure WalletReservationsReserveParams where
  coinIds : List String
  ttlSecs : Option UInt64

namespace WalletReservationsReserveParams

/-- What `deserialize` and `validated` have in common: they differ in how they refuse. -/
def normalize {ε : Type} (refuse : String → ε) (params : WalletReservationsReserveParams) :
    Except ε WalletReservationsReserveParams := do
  let coinIds ← checkIds normalizeCoinId (refuse coinIdsError) params.coinIds
  return { coinIds, ttlSecs := params.ttlSecs }

/-- The check of `Deserialize`, once the private struct is read. -/
def deserialize (raw : WalletReservationsReserveParams) :
    Except DeError WalletReservationsReserveParams := normalize refused raw

/-- The validating constructor. -/
def validated (params : WalletReservationsReserveParams) :
    Except ControlError WalletReservationsReserveParams := normalize invalid params

theorem normalize_eq_ok_iff {ε : Type} {refuse : String → ε}
    {params result : WalletReservationsReserveParams} :
    params.normalize refuse = .ok result ↔
      ∃ coinIds, Normalizes normalizeCoinId params.coinIds coinIds ∧
        ⟨coinIds, params.ttlSecs⟩ = result := by
  simp only [normalize, bind_eq_ok, checkIds_eq_ok_iff, pure, Except.pure, Except.ok.injEq]

instance : SelfValidating WalletReservationsReserveParams where
  name := "RawReserve"
  types := [List String, Option UInt64]
  ser := .cons (.plain "coin_ids") <| .cons (.skipNone "ttl_secs") .nil
  de := .cons (.plain "coin_ids") <| .cons (.default "ttl_secs" none) .nil
  toTuple params := (params.coinIds, params.ttlSecs, ())
  check := fun (coinIds, ttlSecs, ()) => deserialize ⟨coinIds, ttlSecs⟩
  agrees := .cons (.plain _) <| .cons (.skipNone _) .nil
  ofTuple := fun (coinIds, ttlSecs, ()) => ⟨coinIds, ttlSecs⟩
  validated := validated
  Contract params := ∀ id ∈ params.coinIds, CanonicalHex coinIdHexLen id
  toTuple_ofTuple _ := rfl
  check_eq_ok_iff := normalize_eq_ok_iff.trans normalize_eq_ok_iff.symm
  validated_idem accepted := by
    rcases normalize_eq_ok_iff.mp accepted with ⟨_, normal, rfl⟩
    exact normalize_eq_ok_iff.mpr ⟨_, normal.idem, rfl⟩
  contract accepted := by
    rcases normalize_eq_ok_iff.mp accepted with ⟨_, normal, rfl⟩
    exact normal.canonical

end WalletReservationsReserveParams

/-- `control.wallet.reservations.release`: the reservation to give up. -/
structure WalletReservationsReleaseParams where
  reservationId : String

instance : DeriveStruct WalletReservationsReleaseParams where
  name := "WalletReservationsReleaseParams"
  types := [String]
  fields := .plain "reservation_id" .nil
  equiv := ⟨fun params => (params.reservationId, ()),
    fun (reservationId, ()) => ⟨reservationId⟩, fun _ => rfl, fun _ => rfl⟩

/-- `control.wallet.resetCoinDb`: whether the operator confirmed the reset. -/
structure WalletResetCoinDbParams where
  confirm : Bool

instance : DeriveStruct WalletResetCoinDbParams where
  name := "WalletResetCoinDbParams"
  types := [Bool]
  fields := .default "confirm" false .nil
  equiv := ⟨fun params => (params.confirm, ()),
    fun (confirm, ()) => ⟨confirm⟩, fun _ => rfl, fun _ => rfl⟩

end ControlInterface
