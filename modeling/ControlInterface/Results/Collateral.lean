import ControlInterface.Params.Collateral
import ControlInterface.Results.Node
import ControlInterface.Results.Wallet

/-!
# Results of the collateral methods

The result types of the collateral settings, of the mirror bonds and of their
reconciliation with the advertised urls.
-/

namespace ControlInterface

open Serde

/-! ## Collateral settings -/

/-- Why the collateral requirement is not known. -/
inductive CollateralUnknownReason where
  | notCensused
  | behindFinalityDepth
  | recordUnreadable
  | noChainSource
  | balanceUnreadable
  deriving DecidableEq

instance : UnitEnum CollateralUnknownReason where
  variants := [.notCensused, .behindFinalityDepth, .recordUnreadable, .noChainSource,
    .balanceUnreadable]
  wire
    | .notCensused => "not_censused"
    | .behindFinalityDepth => "behind_finality_depth"
    | .recordUnreadable => "record_unreadable"
    | .noChainSource => "no_chain_source"
    | .balanceUnreadable => "balance_unreadable"

/-- The result of `control.collateral.requirement`. -/
inductive CollateralRequirementResult where
  | known (epoch : UInt64) (protocolVersion : UInt16)
      (requiredPerStoreDigBaseUnits stores owners multiplierMicros handicapDigBaseUnits : UInt64)
  | unknown (reason : CollateralUnknownReason)

instance : TaggedEnum CollateralRequirementResult where
  name := "CollateralRequirementResult"
  tag := "state"
  rows := [[UInt64, UInt16, UInt64, UInt64, UInt64, UInt64, UInt64], [CollateralUnknownReason]]
  variants :=
    .struct "Known" "known"
      (.plain "epoch" <| .plain "protocol_version" <|
        .plain "required_per_store_dig_base_units" <| .plain "stores" <| .plain "owners" <|
        .plain "multiplier_micros" <| .plain "handicap_dig_base_units" .nil) <|
    .struct "Unknown" "unknown" (.plain "reason" .nil) .nil
  equiv := {
    toFun
      | .known epoch protocolVersion requiredPerStoreDigBaseUnits stores owners multiplierMicros
          handicapDigBaseUnits =>
        .inl (epoch, protocolVersion, requiredPerStoreDigBaseUnits, stores, owners,
          multiplierMicros, handicapDigBaseUnits, ())
      | .unknown reason => .inr (.inl (reason, ()))
    invFun
      | .inl (epoch, protocolVersion, requiredPerStoreDigBaseUnits, stores, owners,
          multiplierMicros, handicapDigBaseUnits, ()) =>
        .known epoch protocolVersion requiredPerStoreDigBaseUnits stores owners multiplierMicros
          handicapDigBaseUnits
      | .inr (.inl (reason, ())) => .unknown reason
    left_inv value := by cases value <;> rfl
    right_inv
      | .inl _ => rfl
      | .inr (.inl _) => rfl }

/-- How well the collateral is funded. -/
inductive CollateralFundingState where
  | shortNow
  | dangerouslyLow
  | belowRecommendedBuffer
  | funded
  deriving DecidableEq

instance : UnitEnum CollateralFundingState where
  variants := [.shortNow, .dangerouslyLow, .belowRecommendedBuffer, .funded]
  wire
    | .shortNow => "short_now"
    | .dangerouslyLow => "dangerously_low"
    | .belowRecommendedBuffer => "below_recommended_buffer"
    | .funded => "funded"

/-- Why the collateral buffer is not known. -/
inductive CollateralBufferUnknownReason where
  | requirementUnknown
  | servedSetUnknown
  | reclaimStateUnknown
  | balanceUnknown
  deriving DecidableEq

instance : UnitEnum CollateralBufferUnknownReason where
  variants := [.requirementUnknown, .servedSetUnknown, .reclaimStateUnknown, .balanceUnknown]
  wire
    | .requirementUnknown => "requirement_unknown"
    | .servedSetUnknown => "served_set_unknown"
    | .reclaimStateUnknown => "reclaim_state_unknown"
    | .balanceUnknown => "balance_unknown"

/-- The result of `control.collateral.buffer`. -/
inductive CollateralBufferResult where
  | known (epoch : UInt64) (protocolVersion : UInt16) (fundingState : CollateralFundingState)
      (recommendedBufferDigBaseUnits spendableDigBaseUnits pairsServedByThisNode
        requiredPerStoreDigBaseUnits marginBp overlapDigBaseUnits
        escalationHeadroomDigBaseUnits : UInt64)
      (horizonEpochs : UInt32) (escalationCeilingMicros : UInt64)
  | unknown (reason : CollateralBufferUnknownReason)

instance : TaggedEnum CollateralBufferResult where
  name := "CollateralBufferResult"
  tag := "state"
  rows := [
    [UInt64, UInt16, CollateralFundingState, UInt64, UInt64, UInt64, UInt64, UInt64, UInt64,
      UInt64, UInt32, UInt64],
    [CollateralBufferUnknownReason]]
  variants :=
    .struct "Known" "known"
      (.plain "epoch" <| .plain "protocol_version" <| .plain "funding_state" <|
        .plain "recommended_buffer_dig_base_units" <| .plain "spendable_dig_base_units" <|
        .plain "pairs_served_by_this_node" <| .plain "required_per_store_dig_base_units" <|
        .plain "margin_bp" <| .plain "overlap_dig_base_units" <|
        .plain "escalation_headroom_dig_base_units" <| .plain "horizon_epochs" <|
        .plain "escalation_ceiling_micros" .nil) <|
    .struct "Unknown" "unknown" (.plain "reason" .nil) .nil
  equiv := {
    toFun
      | .known epoch protocolVersion fundingState recommendedBufferDigBaseUnits
          spendableDigBaseUnits pairsServedByThisNode requiredPerStoreDigBaseUnits marginBp
          overlapDigBaseUnits escalationHeadroomDigBaseUnits horizonEpochs
          escalationCeilingMicros =>
        .inl (epoch, protocolVersion, fundingState, recommendedBufferDigBaseUnits,
          spendableDigBaseUnits, pairsServedByThisNode, requiredPerStoreDigBaseUnits, marginBp,
          overlapDigBaseUnits, escalationHeadroomDigBaseUnits, horizonEpochs,
          escalationCeilingMicros, ())
      | .unknown reason => .inr (.inl (reason, ()))
    invFun
      | .inl (epoch, protocolVersion, fundingState, recommendedBufferDigBaseUnits,
          spendableDigBaseUnits, pairsServedByThisNode, requiredPerStoreDigBaseUnits, marginBp,
          overlapDigBaseUnits, escalationHeadroomDigBaseUnits, horizonEpochs,
          escalationCeilingMicros, ()) =>
        .known epoch protocolVersion fundingState recommendedBufferDigBaseUnits
          spendableDigBaseUnits pairsServedByThisNode requiredPerStoreDigBaseUnits marginBp
          overlapDigBaseUnits escalationHeadroomDigBaseUnits horizonEpochs escalationCeilingMicros
      | .inr (.inl (reason, ())) => .unknown reason
    left_inv value := by cases value <;> rfl
    right_inv
      | .inl _ => rfl
      | .inr (.inl _) => rfl }

/-- The result of `control.collateral.margin.get` and `control.collateral.margin.set`. -/
structure CollateralMarginResult where
  marginBp : UInt64

instance : DeriveStruct CollateralMarginResult where
  name := "CollateralMarginResult"
  types := [UInt64]
  fields := .plain "margin_bp" .nil
  equiv := ⟨fun result => (result.marginBp, ()),
    fun (marginBp, ()) => ⟨marginBp⟩, fun _ => rfl, fun _ => rfl⟩

/-! ## Mirror bonds -/

/-- The state of a mirror bond. -/
inductive MirrorBondState where
  | bonded (coinId : String) (epoch amountDigBaseUnits : UInt64) (urls : List String)
      (urlCurrent : Bool)
  | pending
  | unfunded (shortDigBaseUnits : UInt64)
  | deferred (reason : CollateralUnknownReason)
  | withheld
  | disabled
  | unadvertised
  | reclaiming (coinId : String) (epoch amountDigBaseUnits : UInt64)

instance : TaggedEnum MirrorBondState where
  name := "MirrorBondState"
  tag := "bond_state"
  rows := [[String, UInt64, UInt64, List String, Bool], [], [UInt64], [CollateralUnknownReason],
    [], [], [], [String, UInt64, UInt64]]
  variants :=
    .struct "Bonded" "bonded"
      (.plain "coin_id" <| .plain "epoch" <| .plain "amount_dig_base_units" <| .plain "urls" <|
        .plain "url_current" .nil) <|
    .unit "Pending" "pending" <|
    .struct "Unfunded" "unfunded" (.plain "short_dig_base_units" .nil) <|
    .struct "Deferred" "deferred" (.plain "reason" .nil) <|
    .unit "Withheld" "withheld" <|
    .unit "Disabled" "disabled" <|
    .unit "Unadvertised" "unadvertised" <|
    .struct "Reclaiming" "reclaiming"
      (.plain "coin_id" <| .plain "epoch" <| .plain "amount_dig_base_units" .nil) .nil
  equiv := {
    toFun
      | .bonded coinId epoch amountDigBaseUnits urls urlCurrent =>
        .inl (coinId, epoch, amountDigBaseUnits, urls, urlCurrent, ())
      | .pending => .inr (.inl ())
      | .unfunded shortDigBaseUnits => .inr (.inr (.inl (shortDigBaseUnits, ())))
      | .deferred reason => .inr (.inr (.inr (.inl (reason, ()))))
      | .withheld => .inr (.inr (.inr (.inr (.inl ()))))
      | .disabled => .inr (.inr (.inr (.inr (.inr (.inl ())))))
      | .unadvertised => .inr (.inr (.inr (.inr (.inr (.inr (.inl ()))))))
      | .reclaiming coinId epoch amountDigBaseUnits =>
        .inr (.inr (.inr (.inr (.inr (.inr (.inr (.inl (coinId, epoch, amountDigBaseUnits,
          ()))))))))
    invFun
      | .inl (coinId, epoch, amountDigBaseUnits, urls, urlCurrent, ()) =>
        .bonded coinId epoch amountDigBaseUnits urls urlCurrent
      | .inr (.inl ()) => .pending
      | .inr (.inr (.inl (shortDigBaseUnits, ()))) => .unfunded shortDigBaseUnits
      | .inr (.inr (.inr (.inl (reason, ())))) => .deferred reason
      | .inr (.inr (.inr (.inr (.inl ())))) => .withheld
      | .inr (.inr (.inr (.inr (.inr (.inl ()))))) => .disabled
      | .inr (.inr (.inr (.inr (.inr (.inr (.inl ())))))) => .unadvertised
      | .inr (.inr (.inr (.inr (.inr (.inr (.inr (.inl (coinId, epoch, amountDigBaseUnits,
          ())))))))) =>
        .reclaiming coinId epoch amountDigBaseUnits
    left_inv value := by cases value <;> rfl
    right_inv
      | .inl _ => rfl
      | .inr (.inl _) => rfl
      | .inr (.inr (.inl _)) => rfl
      | .inr (.inr (.inr (.inl _))) => rfl
      | .inr (.inr (.inr (.inr (.inl _)))) => rfl
      | .inr (.inr (.inr (.inr (.inr (.inl _))))) => rfl
      | .inr (.inr (.inr (.inr (.inr (.inr (.inl _)))))) => rfl
      | .inr (.inr (.inr (.inr (.inr (.inr (.inr (.inl _))))))) => rfl }

/-- A mirror bond, with its state in place. -/
structure MirrorBondEntry where
  storeId : String
  root : String
  state : MirrorBondState

instance : FlatStruct MirrorBondEntry where
  name := "MirrorBondEntry"
  Inner := MirrorBondState
  inner := TaggedEnum.flattened MirrorBondState
  types := [String, String]
  fields := .plain "store_id" <| .plain "root" .nil
  equiv := ⟨fun entry => (entry.state, entry.storeId, entry.root, ()),
    fun (state, storeId, root, ()) => ⟨storeId, root, state⟩, fun _ => rfl, fun _ => rfl⟩

/-- Why the bonds are not known. -/
inductive MirrorBondStatesUnknownReason where
  | servedSetUnknown
  | chainUnreadable
  | inFlightUnknown
  | provenanceUnknown
  deriving DecidableEq

instance : UnitEnum MirrorBondStatesUnknownReason where
  variants := [.servedSetUnknown, .chainUnreadable, .inFlightUnknown, .provenanceUnknown]
  wire
    | .servedSetUnknown => "served_set_unknown"
    | .chainUnreadable => "chain_unreadable"
    | .inFlightUnknown => "in_flight_unknown"
    | .provenanceUnknown => "provenance_unknown"

/-- What the last look at the advertised urls found. -/
structure UrlReconcileObservation where
  atUnixMs : UInt64
  conclusive : Bool
  urls : Option (List String)
  state : Option MirrorAdvertiseState

instance : DeriveStruct UrlReconcileObservation where
  name := "UrlReconcileObservation"
  types := [UInt64, Bool, Option (List String), Option MirrorAdvertiseState]
  fields := .plain "at_unix_ms" <| .plain "conclusive" <| .plain "urls" <| .plain "state" .nil
  equiv := ⟨fun observation => (observation.atUnixMs, observation.conclusive, observation.urls,
    observation.state, ()),
    fun (atUnixMs, conclusive, urls, state, ()) => ⟨atUnixMs, conclusive, urls, state⟩,
    fun _ => rfl, fun _ => rfl⟩

/-- How the automatic reconciliation stands. -/
structure UrlReconcileStatus where
  autoEnabled : Bool
  personalDayOffsetSecs : Option UInt32
  nextCheckUnixMs : Option UInt64
  lastObservation : Option UrlReconcileObservation
  staleBonds : UInt32
  autoReconciledThisEpoch : Bool

instance : DeriveStruct UrlReconcileStatus where
  name := "UrlReconcileStatus"
  types := [Bool, Option UInt32, Option UInt64, Option UrlReconcileObservation, UInt32, Bool]
  fields := .plain "auto_enabled" <| .plain "personal_day_offset_secs" <|
    .plain "next_check_unix_ms" <| .plain "last_observation" <| .plain "stale_bonds" <|
    .plain "auto_reconciled_this_epoch" .nil
  equiv := ⟨fun status => (status.autoEnabled, status.personalDayOffsetSecs,
    status.nextCheckUnixMs, status.lastObservation, status.staleBonds,
    status.autoReconciledThisEpoch, ()),
    fun (autoEnabled, personalDayOffsetSecs, nextCheckUnixMs, lastObservation, staleBonds,
      autoReconciledThisEpoch, ()) =>
      ⟨autoEnabled, personalDayOffsetSecs, nextCheckUnixMs, lastObservation, staleBonds,
        autoReconciledThisEpoch⟩, fun _ => rfl, fun _ => rfl⟩

/-- The result of `control.mirror.bondStates`. -/
inductive MirrorBondStatesResult where
  | known (entries : List MirrorBondEntry) (complete : Bool) (cursor : Option MirrorBondKey)
      (lockedDigBaseUnits epoch : UInt64) (fundingWallet : WalletOperatorAddressResult)
      (urlReconcile : UrlReconcileStatus)
  | unknown (reason : MirrorBondStatesUnknownReason)

instance : TaggedEnum MirrorBondStatesResult where
  name := "MirrorBondStatesResult"
  tag := "state"
  rows := [
    [List MirrorBondEntry, Bool, Option MirrorBondKey, UInt64, UInt64,
      WalletOperatorAddressResult, UrlReconcileStatus],
    [MirrorBondStatesUnknownReason]]
  variants :=
    .struct "Known" "known"
      (.plain "entries" <| .plain "complete" <| .required "cursor" <|
        .plain "locked_dig_base_units" <| .plain "epoch" <| .plain "funding_wallet" <|
        .plain "url_reconcile" .nil) <|
    .struct "Unknown" "unknown" (.plain "reason" .nil) .nil
  equiv := {
    toFun
      | .known entries complete cursor lockedDigBaseUnits epoch fundingWallet urlReconcile =>
        .inl (entries, complete, cursor, lockedDigBaseUnits, epoch, fundingWallet, urlReconcile,
          ())
      | .unknown reason => .inr (.inl (reason, ()))
    invFun
      | .inl (entries, complete, cursor, lockedDigBaseUnits, epoch, fundingWallet, urlReconcile,
          ()) =>
        .known entries complete cursor lockedDigBaseUnits epoch fundingWallet urlReconcile
      | .inr (.inl (reason, ())) => .unknown reason
    left_inv value := by cases value <;> rfl
    right_inv
      | .inl _ => rfl
      | .inr (.inl _) => rfl }

/-! ## Reconciliation -/

/-- What the wallet cannot do for a reconciliation. -/
inductive MirrorReconcileWalletCapability where
  | signing (reason : WalletOperatorAddressUnavailableReason)
  | broadcasting

instance : TaggedEnum MirrorReconcileWalletCapability where
  name := "MirrorReconcileWalletCapability"
  tag := "kind"
  rows := [[WalletOperatorAddressUnavailableReason], []]
  variants :=
    .struct "Signing" "signing" (.plain "reason" .nil) <|
    .unit "Broadcasting" "broadcasting" .nil
  equiv := {
    toFun
      | .signing reason => .inl (reason, ())
      | .broadcasting => .inr (.inl ())
    invFun
      | .inl (reason, ()) => .signing reason
      | .inr (.inl ()) => .broadcasting
    left_inv value := by cases value <;> rfl
    right_inv
      | .inl _ => rfl
      | .inr (.inl _) => rfl }

/-- Why a reconciliation was refused. -/
inductive MirrorReconcileRefusal where
  | notPublishing (state : MirrorAdvertiseState)
  | urlUnchanged
  | noMirrorCoins
  | insufficientFunds (haveDigBaseUnits needDigBaseUnits : UInt64)
  | reconcileInProgress
  | disabled
  | chainUnreadable
  | requirementUnknown (collateralReason : CollateralUnknownReason)
  | walletUnavailable (capability : MirrorReconcileWalletCapability)
  | fundsUnmeasured

instance : TaggedEnum MirrorReconcileRefusal where
  name := "MirrorReconcileRefusal"
  tag := "reason"
  rows := [[MirrorAdvertiseState], [], [], [UInt64, UInt64], [], [], [],
    [CollateralUnknownReason], [MirrorReconcileWalletCapability], []]
  variants :=
    .struct "NotPublishing" "not_publishing" (.plain "state" .nil) <|
    .unit "UrlUnchanged" "url_unchanged" <|
    .unit "NoMirrorCoins" "no_mirror_coins" <|
    .struct "InsufficientFunds" "insufficient_funds"
      (.plain "have_dig_base_units" <| .plain "need_dig_base_units" .nil) <|
    .unit "ReconcileInProgress" "reconcile_in_progress" <|
    .unit "Disabled" "disabled" <|
    .unit "ChainUnreadable" "chain_unreadable" <|
    .struct "RequirementUnknown" "requirement_unknown" (.plain "collateral_reason" .nil) <|
    .struct "WalletUnavailable" "wallet_unavailable" (.plain "capability" .nil) <|
    .unit "FundsUnmeasured" "funds_unmeasured" .nil
  equiv := {
    toFun
      | .notPublishing state => .inl (state, ())
      | .urlUnchanged => .inr (.inl ())
      | .noMirrorCoins => .inr (.inr (.inl ()))
      | .insufficientFunds haveDigBaseUnits needDigBaseUnits =>
        .inr (.inr (.inr (.inl (haveDigBaseUnits, needDigBaseUnits, ()))))
      | .reconcileInProgress => .inr (.inr (.inr (.inr (.inl ()))))
      | .disabled => .inr (.inr (.inr (.inr (.inr (.inl ())))))
      | .chainUnreadable => .inr (.inr (.inr (.inr (.inr (.inr (.inl ()))))))
      | .requirementUnknown collateralReason =>
        .inr (.inr (.inr (.inr (.inr (.inr (.inr (.inl (collateralReason, ()))))))))
      | .walletUnavailable capability =>
        .inr (.inr (.inr (.inr (.inr (.inr (.inr (.inr (.inl (capability, ())))))))))
      | .fundsUnmeasured => .inr (.inr (.inr (.inr (.inr (.inr (.inr (.inr (.inr (.inl ())))))))))
    invFun
      | .inl (state, ()) => .notPublishing state
      | .inr (.inl ()) => .urlUnchanged
      | .inr (.inr (.inl ())) => .noMirrorCoins
      | .inr (.inr (.inr (.inl (haveDigBaseUnits, needDigBaseUnits, ())))) =>
        .insufficientFunds haveDigBaseUnits needDigBaseUnits
      | .inr (.inr (.inr (.inr (.inl ())))) => .reconcileInProgress
      | .inr (.inr (.inr (.inr (.inr (.inl ()))))) => .disabled
      | .inr (.inr (.inr (.inr (.inr (.inr (.inl ())))))) => .chainUnreadable
      | .inr (.inr (.inr (.inr (.inr (.inr (.inr (.inl (collateralReason, ())))))))) =>
        .requirementUnknown collateralReason
      | .inr (.inr (.inr (.inr (.inr (.inr (.inr (.inr (.inl (capability, ()))))))))) =>
        .walletUnavailable capability
      | .inr (.inr (.inr (.inr (.inr (.inr (.inr (.inr (.inr (.inl ()))))))))) => .fundsUnmeasured
    left_inv value := by cases value <;> rfl
    right_inv
      | .inl _ => rfl
      | .inr (.inl _) => rfl
      | .inr (.inr (.inl _)) => rfl
      | .inr (.inr (.inr (.inl _))) => rfl
      | .inr (.inr (.inr (.inr (.inl _)))) => rfl
      | .inr (.inr (.inr (.inr (.inr (.inl _))))) => rfl
      | .inr (.inr (.inr (.inr (.inr (.inr (.inl _)))))) => rfl
      | .inr (.inr (.inr (.inr (.inr (.inr (.inr (.inl _))))))) => rfl
      | .inr (.inr (.inr (.inr (.inr (.inr (.inr (.inr (.inl _)))))))) => rfl
      | .inr (.inr (.inr (.inr (.inr (.inr (.inr (.inr (.inr (.inl _))))))))) => rfl }

/-- The result of `control.mirror.reconcile`; the reason of a refusal stands in place. -/
inductive MirrorReconcileResult where
  | planned (capsulesStale capsulesAffordable : UInt32)
      (collateralReclaimedDigBaseUnits collateralRelockedDigBaseUnits feeEstimateMojos : UInt64)
      (staleUrlSets : List (List String)) (urlCurrent : List String)
      (targetsSeenLast7Days : UInt32)
  | refused (reason : MirrorReconcileRefusal) (urlCurrent : Option (List String))
  | submitted (reclaimsSubmitted reclaimsRejected recreatesOwed leftUnchanged : UInt32)
      (leftReason : Option String) (urlCurrent : List String)

instance : TaggedEnum MirrorReconcileResult where
  name := "MirrorReconcileResult"
  tag := "outcome"
  rows := [[UInt32, UInt32, UInt64, UInt64, UInt64, List (List String), List String, UInt32],
    [MirrorReconcileRefusal, Option (List String)],
    [UInt32, UInt32, UInt32, UInt32, Option String, List String]]
  variants :=
    .struct "Planned" "planned"
      (.plain "capsules_stale" <| .plain "capsules_affordable" <|
        .plain "collateral_reclaimed_dig_base_units" <|
        .plain "collateral_relocked_dig_base_units" <| .plain "fee_estimate_mojos" <|
        .plain "stale_url_sets" <| .plain "url_current" <|
        .plain "targets_seen_last_7_days" .nil) <|
    .flat "Refused" "refused" (TaggedEnum.flattened MirrorReconcileRefusal)
      (.plain "url_current" .nil) <|
    .struct "Submitted" "submitted"
      (.plain "reclaims_submitted" <| .plain "reclaims_rejected" <| .plain "recreates_owed" <|
        .plain "left_unchanged" <| .plain "left_reason" <| .plain "url_current" .nil) .nil
  equiv := {
    toFun
      | .planned capsulesStale capsulesAffordable collateralReclaimedDigBaseUnits
          collateralRelockedDigBaseUnits feeEstimateMojos staleUrlSets urlCurrent
          targetsSeenLast7Days =>
        .inl (capsulesStale, capsulesAffordable, collateralReclaimedDigBaseUnits,
          collateralRelockedDigBaseUnits, feeEstimateMojos, staleUrlSets, urlCurrent,
          targetsSeenLast7Days, ())
      | .refused reason urlCurrent => .inr (.inl (reason, urlCurrent, ()))
      | .submitted reclaimsSubmitted reclaimsRejected recreatesOwed leftUnchanged leftReason
          urlCurrent =>
        .inr (.inr (.inl (reclaimsSubmitted, reclaimsRejected, recreatesOwed, leftUnchanged,
          leftReason, urlCurrent, ())))
    invFun
      | .inl (capsulesStale, capsulesAffordable, collateralReclaimedDigBaseUnits,
          collateralRelockedDigBaseUnits, feeEstimateMojos, staleUrlSets, urlCurrent,
          targetsSeenLast7Days, ()) =>
        .planned capsulesStale capsulesAffordable collateralReclaimedDigBaseUnits
          collateralRelockedDigBaseUnits feeEstimateMojos staleUrlSets urlCurrent
          targetsSeenLast7Days
      | .inr (.inl (reason, urlCurrent, ())) => .refused reason urlCurrent
      | .inr (.inr (.inl (reclaimsSubmitted, reclaimsRejected, recreatesOwed, leftUnchanged,
          leftReason, urlCurrent, ()))) =>
        .submitted reclaimsSubmitted reclaimsRejected recreatesOwed leftUnchanged leftReason
          urlCurrent
    left_inv value := by cases value <;> rfl
    right_inv
      | .inl _ => rfl
      | .inr (.inl _) => rfl
      | .inr (.inr (.inl _)) => rfl }

end ControlInterface
