import ControlInterface.Params.Wallet

/-!
# Params of the collateral methods

The params types of the spend record, of the collateral settings and of the mirror
bonds.  The two paged types are deserialized through their validating constructor,
whose error becomes the text of the deserializer's.
-/

namespace ControlInterface

open Serde

/-! ## Checks the types share -/

/-- Turn a refusal of a validating constructor into one of the deserializer
(`map_err(serde::de::Error::custom)`). -/
def customError (error : ControlError) : DeError := .custom [.text error.display]

/-- The page size is absent or within the cap. -/
def checkLimit (cap : UInt32) (message : String) (limit : Option UInt32) :
    Except ControlError Unit :=
  match limit with
  | some limit => if limit = 0 ∨ limit > cap then .error (invalid message) else .ok ()
  | none => .ok ()

theorem checkLimit_eq_ok_iff {cap : UInt32} {message : String} {limit : Option UInt32}
    {passed : Unit} : checkLimit cap message limit = .ok passed ↔ LimitWithin cap limit := by
  cases limit with
  | none => simp [checkLimit, LimitWithin]
  | some size =>
      simp only [checkLimit, LimitWithin, ite_eq_right_iff, reduceCtorEq, imp_false,
        Option.mem_some_iff, forall_eq', not_or, gt_iff_lt, UInt32.not_lt]
      apply and_congr_left
      intro _
      rw [← UInt32.toNat_inj, UInt32.le_iff_toNat_le]
      simp only [UInt32.toNat_zero, UInt32.toNat_one]
      omega

/-! ## The spend record -/

def spendsListDefaultLimit : UInt32 := 50

def spendsListMaxLimit : UInt32 := 500

def spendsListLimitError : String := "limit must be between 1 and 500 spends per page"

/-- `control.spends.list`: a page of the automated spends that match the filters. -/
structure SpendsListParams where
  sinceMs : Option UInt64
  untilMs : Option UInt64
  storeId : Option String
  kind : Option String
  status : Option String
  afterId : Option String
  limit : Option UInt32

namespace SpendsListParams

def validated (params : SpendsListParams) : Except ControlError SpendsListParams := do
  checkLimit spendsListMaxLimit spendsListLimitError params.limit
  return params

def effectiveLimit (params : SpendsListParams) : UInt32 :=
  params.limit.getD spendsListDefaultLimit

theorem validated_eq_ok_iff {params result : SpendsListParams} :
    params.validated = .ok result ↔
      LimitWithin spendsListMaxLimit params.limit ∧ params = result := by
  simp only [validated, bind_eq_ok, checkLimit_eq_ok_iff, pure, Except.pure, Except.ok.injEq,
    exists_const]

instance : SelfValidating SpendsListParams where
  name := "Raw"
  types := [Option UInt64, Option UInt64, Option String, Option String, Option String,
    Option String, Option UInt32]
  ser := .cons (.skipNone "since_ms") <| .cons (.skipNone "until_ms") <|
    .cons (.skipNone "store_id") <| .cons (.skipNone "kind") <| .cons (.skipNone "status") <|
    .cons (.skipNone "after_id") <| .cons (.skipNone "limit") .nil
  de := .cons (.default "since_ms" none) <| .cons (.default "until_ms" none) <|
    .cons (.default "store_id" none) <| .cons (.default "kind" none) <|
    .cons (.default "status" none) <| .cons (.default "after_id" none) <|
    .cons (.default "limit" none) .nil
  toTuple params := (params.sinceMs, params.untilMs, params.storeId, params.kind, params.status,
    params.afterId, params.limit, ())
  check := fun (sinceMs, untilMs, storeId, kind, status, afterId, limit, ()) =>
    mapErr customError
      (validated { sinceMs, untilMs, storeId, kind, status, afterId, limit })
  agrees := .cons (.skipNone _) <| .cons (.skipNone _) <| .cons (.skipNone _) <|
    .cons (.skipNone _) <| .cons (.skipNone _) <| .cons (.skipNone _) <| .cons (.skipNone _) .nil
  ofTuple := fun (sinceMs, untilMs, storeId, kind, status, afterId, limit, ()) =>
    { sinceMs, untilMs, storeId, kind, status, afterId, limit }
  validated := validated
  Contract params := LimitWithin spendsListMaxLimit params.limit
  toTuple_ofTuple _ := rfl
  check_eq_ok_iff := mapErr_eq_ok_iff
  validated_idem accepted := by
    rcases validated_eq_ok_iff.mp accepted with ⟨within, rfl⟩
    exact accepted
  contract accepted := by
    rcases validated_eq_ok_iff.mp accepted with ⟨within, rfl⟩
    exact within

end SpendsListParams

/-! ## Collateral settings -/

/-- `control.collateral.requirement` takes no params. -/
structure CollateralRequirementParams where

instance : EmptyStruct CollateralRequirementParams :=
  ⟨"CollateralRequirementParams", ⟨⟩, fun _ => rfl⟩

/-- `control.collateral.margin.get` takes no params. -/
structure CollateralMarginGetParams where

instance : EmptyStruct CollateralMarginGetParams :=
  ⟨"CollateralMarginGetParams", ⟨⟩, fun _ => rfl⟩

/-- `control.collateral.buffer` takes no params. -/
structure CollateralBufferParams where

instance : EmptyStruct CollateralBufferParams := ⟨"CollateralBufferParams", ⟨⟩, fun _ => rfl⟩

def maxSafetyMarginBp : UInt64 := 10000

/-- `control.collateral.margin.set`: the margin to add, in basis points. -/
structure CollateralMarginSetParams where
  marginBp : UInt64

instance : DeriveStruct CollateralMarginSetParams where
  name := "CollateralMarginSetParams"
  types := [UInt64]
  fields := .plain "margin_bp" .nil
  equiv := ⟨fun params => (params.marginBp, ()),
    fun (marginBp, ()) => ⟨marginBp⟩, fun _ => rfl, fun _ => rfl⟩

namespace CollateralMarginSetParams

/-- Refuse a margin above the maximum. -/
def validated (params : CollateralMarginSetParams) :
    Except ControlError CollateralMarginSetParams :=
  if params.marginBp > maxSafetyMarginBp then
    .error (invalid ("margin_bp must be at most " ++ toString maxSafetyMarginBp
      ++ " basis points (+100%); got " ++ toString params.marginBp))
  else .ok params

theorem validated_eq_ok_iff {params result : CollateralMarginSetParams} :
    params.validated = .ok result ↔ result = params ∧ params.marginBp ≤ maxSafetyMarginBp := by
  unfold validated
  split
  next above =>
    exact ⟨nofun, fun accepted => absurd above (UInt64.not_lt.mpr accepted.2)⟩
  next within =>
    rw [Except.ok.injEq]
    exact ⟨fun same => ⟨same.symm, UInt64.not_lt.mp within⟩, fun accepted => accepted.1.symm⟩

theorem validated_idem {params result : CollateralMarginSetParams}
    (accepted : params.validated = .ok result) : result.validated = .ok result := by
  rcases validated_eq_ok_iff.mp accepted with ⟨rfl, _⟩
  exact accepted

theorem isRefusal_of_validated {params : CollateralMarginSetParams} {error : ControlError}
    (failed : params.validated = .error error) : IsRefusal error := by
  unfold validated at failed
  split at failed
  next => exact ⟨_, (Except.error.inj failed).symm⟩
  next => cases failed

end CollateralMarginSetParams

/-! ## Mirror bonds -/

/-- What names a mirror bond: a store and one of its roots. -/
structure MirrorBondKey where
  storeId : String
  root : String
  deriving DecidableEq

instance : DeriveStruct MirrorBondKey where
  name := "MirrorBondKey"
  types := [String, String]
  fields := .plain "store_id" <| .plain "root" .nil
  equiv := ⟨fun key => (key.storeId, key.root, ()),
    fun (storeId, root, ()) => ⟨storeId, root⟩, fun _ => rfl, fun _ => rfl⟩

def mirrorBondStatesDefaultLimit : UInt32 := 100

def mirrorBondStatesMaxLimit : UInt32 := coinsByParentMaxLimit

def mirrorBondStatesLimitError : String := "limit must be between 1 and 1000 bonds per page"

def mirrorBondAfterError : String :=
  "after.store_id and after.root must each be lowercase 64-hex, optionally 0x-prefixed"

/-- `control.mirror.bondStates`: a page of the bonds, after a given one. -/
structure MirrorBondStatesParams where
  after : Option MirrorBondKey
  limit : Option UInt32

namespace MirrorBondStatesParams

def normalizeBondKey (key : MirrorBondKey) : Except ControlError MirrorBondKey := do
  let storeId ← checkCoinId invalid mirrorBondAfterError key.storeId
  let root ← checkCoinId invalid mirrorBondAfterError key.root
  return { storeId, root }

def validated (params : MirrorBondStatesParams) : Except ControlError MirrorBondStatesParams := do
  checkLimit mirrorBondStatesMaxLimit mirrorBondStatesLimitError params.limit
  let after ← mapTranspose normalizeBondKey params.after
  return { params with after }

def effectiveLimit (params : MirrorBondStatesParams) : UInt32 :=
  params.limit.getD mirrorBondStatesDefaultLimit

/-- Both halves of the second key are the normal forms of those of the first. -/
def NormalKey (key result : MirrorBondKey) : Prop :=
  normalizeCoinId key.storeId = some result.storeId ∧ normalizeCoinId key.root = some result.root

/-- Both halves of a key are canonical. -/
def CanonicalKey (key : MirrorBondKey) : Prop :=
  CanonicalHex coinIdHexLen key.storeId ∧ CanonicalHex coinIdHexLen key.root

theorem normalizeBondKey_eq_ok_iff {key result : MirrorBondKey} :
    normalizeBondKey key = .ok result ↔ NormalKey key result := by
  simp only [normalizeBondKey, bind_eq_ok, checkCoinId_eq_ok_iff, pure, Except.pure,
    Except.ok.injEq, NormalKey]
  constructor
  · intro halves
    rcases halves with ⟨storeId, store, root, rootNormal, rfl⟩
    exact ⟨store, rootNormal⟩
  · intro halves
    rcases halves with ⟨store, root⟩
    exact ⟨_, store, _, root, rfl⟩

/-- The second cursor is the normal form of the first, or both are absent. -/
def NormalAfter : Option MirrorBondKey → Option MirrorBondKey → Prop := Option.Rel NormalKey

theorem NormalAfter.idem {cursor result : Option MirrorBondKey}
    (normal : NormalAfter cursor result) : NormalAfter result result := by
  cases normal with
  | none => exact .none
  | some normal => exact .some ⟨(normalizeHex_idem normal.1).2, (normalizeHex_idem normal.2).2⟩

theorem NormalAfter.canonical {cursor result : Option MirrorBondKey}
    (normal : NormalAfter cursor result) : ∀ key ∈ result, CanonicalKey key := by
  cases normal with
  | none => simp
  | some normal =>
      simpa using ⟨(normalizeHex_idem normal.1).1, (normalizeHex_idem normal.2).1⟩

theorem validated_eq_ok_iff {params result : MirrorBondStatesParams} :
    params.validated = .ok result ↔
      LimitWithin mirrorBondStatesMaxLimit params.limit ∧
        ∃ after, NormalAfter params.after after ∧ { params with after } = result := by
  simp only [validated, bind_eq_ok, checkLimit_eq_ok_iff, mapTranspose_eq_ok_iff,
    normalizeBondKey_eq_ok_iff, pure, Except.pure, Except.ok.injEq, exists_const, NormalAfter]

instance : SelfValidating MirrorBondStatesParams where
  name := "Raw"
  types := [Option MirrorBondKey, Option UInt32]
  ser := .cons (.skipNone "after") <| .cons (.skipNone "limit") .nil
  de := .cons (.default "after" none) <| .cons (.default "limit" none) .nil
  toTuple params := (params.after, params.limit, ())
  check := fun (after, limit, ()) => mapErr customError (validated ⟨after, limit⟩)
  agrees := .cons (.skipNone _) <| .cons (.skipNone _) .nil
  ofTuple := fun (after, limit, ()) => ⟨after, limit⟩
  validated := validated
  Contract params := (∀ key ∈ params.after, CanonicalKey key) ∧
    LimitWithin mirrorBondStatesMaxLimit params.limit
  toTuple_ofTuple _ := rfl
  check_eq_ok_iff := mapErr_eq_ok_iff
  validated_idem accepted := by
    rcases validated_eq_ok_iff.mp accepted with ⟨within, _, normal, rfl⟩
    exact validated_eq_ok_iff.mpr ⟨within, _, normal.idem, rfl⟩
  contract accepted := by
    rcases validated_eq_ok_iff.mp accepted with ⟨within, _, normal, rfl⟩
    exact ⟨normal.canonical, within⟩

end MirrorBondStatesParams

/-- `control.mirror.reconcile`: whether to only report what would be done. -/
structure MirrorReconcileParams where
  dryRun : Bool

instance : DeriveStruct MirrorReconcileParams where
  name := "MirrorReconcileParams"
  types := [Bool]
  fields := .default "dry_run" false .nil
  equiv := ⟨fun params => (params.dryRun, ()),
    fun (dryRun, ()) => ⟨dryRun⟩, fun _ => rfl, fun _ => rfl⟩

end ControlInterface
