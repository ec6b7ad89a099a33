import ControlInterface.Asset
import ControlInterface.Serde.Enum

/-!
# Results of the wallet methods

The result types of the wallet reads, of enrolment, of the coin reservations and of
the record of automated spends.
-/

namespace ControlInterface

open Serde

/-! ## Balances and coins -/

/-- Where a wallet read was answered from. -/
inductive WalletReadSource where
  | db
  | fallback
  deriving DecidableEq

instance : UnitEnum WalletReadSource where
  variants := [.db, .fallback]
  wire
    | .db => "db"
    | .fallback => "fallback"

/-- The result of `control.wallet.balance`. -/
structure WalletBalanceResult where
  balance : UInt64
  pending : UInt64
  source : Option WalletReadSource
  synced : Bool
  peakHeight : Option UInt32

instance : DeriveStruct WalletBalanceResult where
  name := "WalletBalanceResult"
  types := [UInt64, UInt64, Option WalletReadSource, Bool, Option UInt32]
  fields := .plain "balance" <| .plain "pending" <| .plain "source" <| .plain "synced" <|
    .plain "peak_height" .nil
  equiv := ⟨fun result => (result.balance, result.pending, result.source, result.synced,
    result.peakHeight, ()),
    fun (balance, pending, source, synced, peakHeight, ()) =>
      ⟨balance, pending, source, synced, peakHeight⟩, fun _ => rfl, fun _ => rfl⟩

/-- A coin. -/
structure WalletCoinRecord where
  coinId : String
  asset : Option Asset
  amount : UInt64
  parentCoinInfo : String
  puzzleHash : String
  createdHeight : Option UInt32
  spentHeight : Option UInt32

instance : DeriveStruct WalletCoinRecord where
  name := "WalletCoinRecord"
  types := [String, Option Asset, UInt64, String, String, Option UInt32, Option UInt32]
  fields := .plain "coin_id" <| .plain "asset" <| .plain "amount" <| .plain "parent_coin_info" <|
    .plain "puzzle_hash" <| .plain "created_height" <| .plain "spent_height" .nil
  equiv := ⟨fun record => (record.coinId, record.asset, record.amount, record.parentCoinInfo,
    record.puzzleHash, record.createdHeight, record.spentHeight, ()),
    fun (coinId, asset, amount, parentCoinInfo, puzzleHash, createdHeight, spentHeight, ()) =>
      ⟨coinId, asset, amount, parentCoinInfo, puzzleHash, createdHeight, spentHeight⟩,
    fun _ => rfl, fun _ => rfl⟩

/-- The result of `control.wallet.coins`; an older node does not say whether the page is
the last one. -/
structure WalletCoinsResult where
  coins : List WalletCoinRecord
  complete : Option Bool
  cursor : Option String
  source : Option WalletReadSource
  synced : Bool
  peakHeight : Option UInt32

instance : DeriveStruct WalletCoinsResult where
  name := "WalletCoinsResult"
  types := [List WalletCoinRecord, Option Bool, Option String, Option WalletReadSource, Bool,
    Option UInt32]
  fields := .plain "coins" <| .default "complete" none <| .default "cursor" none <|
    .plain "source" <| .plain "synced" <| .plain "peak_height" .nil
  equiv := ⟨fun result => (result.coins, result.complete, result.cursor, result.source,
    result.synced, result.peakHeight, ()),
    fun (coins, complete, cursor, source, synced, peakHeight, ()) =>
      ⟨coins, complete, cursor, source, synced, peakHeight⟩, fun _ => rfl, fun _ => rfl⟩

/-- The result of `control.wallet.coinById`: the coin, or a `null` that says there is none. -/
structure WalletCoinByIdResult where
  coin : Option WalletCoinRecord
  source : Option WalletReadSource
  synced : Bool
  peakHeight : Option UInt32

instance : DeriveStruct WalletCoinByIdResult where
  name := "WalletCoinByIdResult"
  types := [Option WalletCoinRecord, Option WalletReadSource, Bool, Option UInt32]
  fields := .required "coin" <| .plain "source" <| .plain "synced" <| .plain "peak_height" .nil
  equiv := ⟨fun result => (result.coin, result.source, result.synced, result.peakHeight, ()),
    fun (coin, source, synced, peakHeight, ()) => ⟨coin, source, synced, peakHeight⟩,
    fun _ => rfl, fun _ => rfl⟩

/-- A coin and how it was spent. -/
structure WalletCoinSpend where
  coin : WalletCoinRecord
  puzzleReveal : String
  solution : String

instance : DeriveStruct WalletCoinSpend where
  name := "WalletCoinSpend"
  types := [WalletCoinRecord, String, String]
  fields := .plain "coin" <| .plain "puzzle_reveal" <| .plain "solution" .nil
  equiv := ⟨fun spend => (spend.coin, spend.puzzleReveal, spend.solution, ()),
    fun (coin, puzzleReveal, solution, ()) => ⟨coin, puzzleReveal, solution⟩,
    fun _ => rfl, fun _ => rfl⟩

/-- The result of `control.wallet.coinSpend`: the spend, or a `null` that says there is
none. -/
structure WalletCoinSpendResult where
  spend : Option WalletCoinSpend
  source : Option WalletReadSource
  synced : Bool
  peakHeight : Option UInt32

instance : DeriveStruct WalletCoinSpendResult where
  name := "WalletCoinSpendResult"
  types := [Option WalletCoinSpend, Option WalletReadSource, Bool, Option UInt32]
  fields := .required "spend" <| .plain "source" <| .plain "synced" <| .plain "peak_height" .nil
  equiv := ⟨fun result => (result.spend, result.source, result.synced, result.peakHeight, ()),
    fun (spend, source, synced, peakHeight, ()) => ⟨spend, source, synced, peakHeight⟩,
    fun _ => rfl, fun _ => rfl⟩

/-- The result of `control.wallet.coinsByParent`. -/
structure WalletCoinsByParentResult where
  coins : List WalletCoinRecord
  complete : Bool
  cursor : Option String
  source : Option WalletReadSource
  synced : Bool
  peakHeight : Option UInt32

instance : DeriveStruct WalletCoinsByParentResult where
  name := "WalletCoinsByParentResult"
  types := [List WalletCoinRecord, Bool, Option String, Option WalletReadSource, Bool,
    Option UInt32]
  fields := .plain "coins" <| .plain "complete" <| .required "cursor" <| .plain "source" <|
    .plain "synced" <| .plain "peak_height" .nil
  equiv := ⟨fun result => (result.coins, result.complete, result.cursor, result.source,
    result.synced, result.peakHeight, ()),
    fun (coins, complete, cursor, source, synced, peakHeight, ()) =>
      ⟨coins, complete, cursor, source, synced, peakHeight⟩, fun _ => rfl, fun _ => rfl⟩

/-- A coin that arrived. -/
structure WalletArrivalRecord where
  seq : UInt64
  coinId : String
  puzzleHash : String
  amount : String
  assetId : Option String
  confirmedHeight : UInt32

instance : DeriveStruct WalletArrivalRecord where
  name := "WalletArrivalRecord"
  types := [UInt64, String, String, String, Option String, UInt32]
  fields := .plain "seq" <| .plain "coin_id" <| .plain "puzzle_hash" <| .plain "amount" <|
    .plain "asset_id" <| .plain "confirmed_height" .nil
  equiv := ⟨fun record => (record.seq, record.coinId, record.puzzleHash, record.amount,
    record.assetId, record.confirmedHeight, ()),
    fun (seq, coinId, puzzleHash, amount, assetId, confirmedHeight, ()) =>
      ⟨seq, coinId, puzzleHash, amount, assetId, confirmedHeight⟩, fun _ => rfl, fun _ => rfl⟩

/-- The result of `control.wallet.arrivals`. -/
structure WalletArrivalsResult where
  arrivals : List WalletArrivalRecord
  cursor : UInt64
  latest : UInt64

instance : DeriveStruct WalletArrivalsResult where
  name := "WalletArrivalsResult"
  types := [List WalletArrivalRecord, UInt64, UInt64]
  fields := .plain "arrivals" <| .plain "cursor" <| .plain "latest" .nil
  equiv := ⟨fun result => (result.arrivals, result.cursor, result.latest, ()),
    fun (arrivals, cursor, latest, ()) => ⟨arrivals, cursor, latest⟩, fun _ => rfl, fun _ => rfl⟩

/-! ## Chain state -/

/-- The result of `control.wallet.peak`. -/
structure WalletPeakResult where
  peakHeight : Option UInt32
  synced : Bool

instance : DeriveStruct WalletPeakResult where
  name := "WalletPeakResult"
  types := [Option UInt32, Bool]
  fields := .plain "peak_height" <| .plain "synced" .nil
  equiv := ⟨fun result => (result.peakHeight, result.synced, ()),
    fun (peakHeight, synced, ()) => ⟨peakHeight, synced⟩, fun _ => rfl, fun _ => rfl⟩

/-- Why there is no operator address. -/
inductive WalletOperatorAddressUnavailableReason where
  | notInitialized
  | unreadable
  deriving DecidableEq

instance : UnitEnum WalletOperatorAddressUnavailableReason where
  variants := [.notInitialized, .unreadable]
  wire
    | .notInitialized => "not_initialized"
    | .unreadable => "unreadable"

/-- The result of `control.wallet.operatorAddress`. -/
inductive WalletOperatorAddressResult where
  | known (address puzzleHash : String)
  | unavailable (reason : WalletOperatorAddressUnavailableReason)

instance : TaggedEnum WalletOperatorAddressResult where
  name := "WalletOperatorAddressResult"
  tag := "state"
  rows := [[String, String], [WalletOperatorAddressUnavailableReason]]
  variants :=
    .struct "Known" "known" (.plain "address" <| .plain "puzzle_hash" .nil) <|
    .struct "Unavailable" "unavailable" (.plain "reason" .nil) .nil
  equiv := {
    toFun
      | .known address puzzleHash => .inl (address, puzzleHash, ())
      | .unavailable reason => .inr (.inl (reason, ()))
    invFun
      | .inl (address, puzzleHash, ()) => .known address puzzleHash
      | .inr (.inl (reason, ())) => .unavailable reason
    left_inv value := by cases value <;> rfl
    right_inv
      | .inl _ => rfl
      | .inr (.inl _) => rfl }

/-- A phase of the wallet sync by its wire name, if it is one of those of the contract. -/
def isPhaseName (token : String) : Bool :=
  token ∈ ["not_started", "syncing", "synced", "no_wallet_enrolled", "wallet_not_unlocked"]

/-- The wire name of a phase this version does not know. -/
structure UnknownPhaseToken where
  text : String
  unknown : isPhaseName text = false
  deriving DecidableEq

/-- How far the wallet has synced. -/
inductive WalletSyncPhase where
  | notStarted
  | syncing
  | synced
  | noWalletEnrolled
  | walletNotUnlocked
  | unrecognized (token : UnknownPhaseToken)
  deriving DecidableEq

namespace WalletSyncPhase

def asWire : WalletSyncPhase → String
  | .notStarted => "not_started"
  | .syncing => "syncing"
  | .synced => "synced"
  | .noWalletEnrolled => "no_wallet_enrolled"
  | .walletNotUnlocked => "wallet_not_unlocked"
  | .unrecognized token => token.text

/-- The phase with the given wire name (`From<&str>`). -/
def ofWire (token : String) : WalletSyncPhase :=
  if notStarted : token = "not_started" then .notStarted
  else if syncing : token = "syncing" then .syncing
  else if synced : token = "synced" then .synced
  else if notEnrolled : token = "no_wallet_enrolled" then .noWalletEnrolled
  else if notUnlocked : token = "wallet_not_unlocked" then .walletNotUnlocked
  else .unrecognized ⟨token, by simp [isPhaseName, *]⟩

theorem ofWire_asWire (phase : WalletSyncPhase) : ofWire phase.asWire = phase := by
  cases phase with
  | unrecognized token =>
      have unknown := token.unknown
      simp only [isPhaseName, List.mem_cons, List.not_mem_nil, or_false, decide_eq_false_iff_not,
        not_or] at unknown
      simp [asWire, ofWire, unknown]
  | _ => simp [asWire, ofWire]

instance : Serialize WalletSyncPhase := ⟨fun phase => toValue phase.asWire⟩

instance : Deserialize WalletSyncPhase where
  fromSource source value := ofWire <$> fromSource source value

instance : LawfulSerde WalletSyncPhase where
  fromSource_toValue source phase := by
    simp only [fromSource, toValue, Json.view_string, map_ok, ofWire_asWire]

instance : NeverNull WalletSyncPhase := ⟨fun _ => nofun⟩

end WalletSyncPhase

/-- The result of `control.wallet.syncStatus`; a count is absent when it is not known. -/
structure WalletSyncStatusResult where
  phase : WalletSyncPhase
  peakHeight : Option UInt32
  chiaPeerCount : Option UInt32
  watchedAddresses : Option UInt32
  subscriptionPeerCount : Option UInt32
  chiaPeerPeakHeight : Option UInt32

instance : DeriveStruct WalletSyncStatusResult where
  name := "WalletSyncStatusResult"
  types := [WalletSyncPhase, Option UInt32, Option UInt32, Option UInt32, Option UInt32,
    Option UInt32]
  fields := .plain "phase" <| .plain "peak_height" <| .plain "chia_peer_count" <|
    .plain "watched_addresses" <| .plain "subscription_peer_count" <|
    .plain "chia_peer_peak_height" .nil
  equiv := ⟨fun result => (result.phase, result.peakHeight, result.chiaPeerCount,
    result.watchedAddresses, result.subscriptionPeerCount, result.chiaPeerPeakHeight, ()),
    fun (phase, peakHeight, chiaPeerCount, watchedAddresses, subscriptionPeerCount,
      chiaPeerPeakHeight, ()) =>
      ⟨phase, peakHeight, chiaPeerCount, watchedAddresses, subscriptionPeerCount,
        chiaPeerPeakHeight⟩, fun _ => rfl, fun _ => rfl⟩

/-- The result of `control.wallet.broadcast`. -/
structure WalletBroadcastResult where
  accepted : Bool
  transactionId : Option String
  rejection : Option String

instance : DeriveStruct WalletBroadcastResult where
  name := "WalletBroadcastResult"
  types := [Bool, Option String, Option String]
  fields := .plain "accepted" <| .plain "transaction_id" <| .plain "rejection" .nil
  equiv := ⟨fun result => (result.accepted, result.transactionId, result.rejection, ()),
    fun (accepted, transactionId, rejection, ()) => ⟨accepted, transactionId, rejection⟩,
    fun _ => rfl, fun _ => rfl⟩

/-- The result of `control.wallet.resetCoinDb`. -/
structure WalletResetCoinDbResult where
  coinsDropped : UInt64
  stagedDropped : UInt64

instance : DeriveStruct WalletResetCoinDbResult where
  name := "WalletResetCoinDbResult"
  types := [UInt64, UInt64]
  fields := .plain "coins_dropped" <| .plain "staged_dropped" .nil
  equiv := ⟨fun result => (result.coinsDropped, result.stagedDropped, ()),
    fun (coinsDropped, stagedDropped, ()) => ⟨coinsDropped, stagedDropped⟩,
    fun _ => rfl, fun _ => rfl⟩

/-! ## Enrolment -/

/-- The result of `control.wallet.watch`. -/
structure WalletWatchResult where
  added : UInt32
  watched : UInt32

instance : DeriveStruct WalletWatchResult where
  name := "WalletWatchResult"
  types := [UInt32, UInt32]
  fields := .plain "added" <| .plain "watched" .nil
  equiv := ⟨fun result => (result.added, result.watched, ()),
    fun (added, watched, ()) => ⟨added, watched⟩, fun _ => rfl, fun _ => rfl⟩

/-- The result of `control.wallet.unwatch`. -/
structure WalletUnwatchResult where
  removed : UInt32
  watched : UInt32

instance : DeriveStruct WalletUnwatchResult where
  name := "WalletUnwatchResult"
  types := [UInt32, UInt32]
  fields := .plain "removed" <| .plain "watched" .nil
  equiv := ⟨fun result => (result.removed, result.watched, ()),
    fun (removed, watched, ()) => ⟨removed, watched⟩, fun _ => rfl, fun _ => rfl⟩

/-- The result of `control.wallet.watched`. -/
structure WalletWatchedResult where
  publicKeys : List String

instance : DeriveStruct WalletWatchedResult where
  name := "WalletWatchedResult"
  types := [List String]
  fields := .plain "public_keys" .nil
  equiv := ⟨fun result => (result.publicKeys, ()),
    fun (publicKeys, ()) => ⟨publicKeys⟩, fun _ => rfl, fun _ => rfl⟩

/-! ## Reservations -/

/-- A coin that is reserved. -/
structure ReservedCoin where
  coinId : String
  reservationId : String
  expiresAtUnix : UInt64

instance : DeriveStruct ReservedCoin where
  name := "ReservedCoin"
  types := [String, String, UInt64]
  fields := .plain "coin_id" <| .plain "reservation_id" <| .plain "expires_at_unix" .nil
  equiv := ⟨fun coin => (coin.coinId, coin.reservationId, coin.expiresAtUnix, ()),
    fun (coinId, reservationId, expiresAtUnix, ()) => ⟨coinId, reservationId, expiresAtUnix⟩,
    fun _ => rfl, fun _ => rfl⟩

/-- The result of `control.wallet.reservations.held`. -/
structure WalletReservationsHeldResult where
  reserved : List ReservedCoin
  asOfUnix : UInt64

instance : DeriveStruct WalletReservationsHeldResult where
  name := "WalletReservationsHeldResult"
  types := [List ReservedCoin, UInt64]
  fields := .plain "reserved" <| .plain "as_of_unix" .nil
  equiv := ⟨fun result => (result.reserved, result.asOfUnix, ()),
    fun (reserved, asOfUnix, ()) => ⟨reserved, asOfUnix⟩, fun _ => rfl, fun _ => rfl⟩

/-- The result of `control.wallet.reservations.reserve`. -/
structure WalletReservationsReserveResult where
  reservationId : String
  coinIds : List String
  expiresAtUnix : UInt64
  ttlSecs : UInt64

instance : DeriveStruct WalletReservationsReserveResult where
  name := "WalletReservationsReserveResult"
  types := [String, List String, UInt64, UInt64]
  fields := .plain "reservation_id" <| .plain "coin_ids" <| .plain "expires_at_unix" <|
    .plain "ttl_secs" .nil
  equiv := ⟨fun result => (result.reservationId, result.coinIds, result.expiresAtUnix,
    result.ttlSecs, ()),
    fun (reservationId, coinIds, expiresAtUnix, ttlSecs, ()) =>
      ⟨reservationId, coinIds, expiresAtUnix, ttlSecs⟩, fun _ => rfl, fun _ => rfl⟩

/-- The result of `control.wallet.reservations.release`. -/
structure WalletReservationsReleaseResult where
  released : Bool
  coinIds : List String

instance : DeriveStruct WalletReservationsReleaseResult where
  name := "WalletReservationsReleaseResult"
  types := [Bool, List String]
  fields := .plain "released" <| .plain "coin_ids" .nil
  equiv := ⟨fun result => (result.released, result.coinIds, ()),
    fun (released, coinIds, ()) => ⟨released, coinIds⟩, fun _ => rfl, fun _ => rfl⟩

/-! ## Automated spends -/

/-- The asset of an automated spend. -/
inductive SpendAsset where
  | xch
  | dig
  | cat (assetId : String)

instance : TaggedEnum SpendAsset where
  name := "SpendAsset"
  tag := "asset"
  rows := [[], [], [String]]
  variants :=
    .unit "Xch" "xch" <|
    .unit "Dig" "dig" <|
    .struct "Cat" "cat" (.plain "asset_id" .nil) .nil
  equiv := {
    toFun
      | .xch => .inl ()
      | .dig => .inr (.inl ())
      | .cat assetId => .inr (.inr (.inl (assetId, ())))
    invFun
      | .inl () => .xch
      | .inr (.inl ()) => .dig
      | .inr (.inr (.inl (assetId, ()))) => .cat assetId
    left_inv value := by cases value <;> rfl
    right_inv
      | .inl _ => rfl
      | .inr (.inl _) => rfl
      | .inr (.inr (.inl _)) => rfl }

/-- On whose authority a spend was made. -/
structure SpendAuthority where
  principal : String
  grant : String

instance : DeriveStruct SpendAuthority where
  name := "SpendAuthority"
  types := [String, String]
  fields := .plain "principal" <| .plain "grant" .nil
  equiv := ⟨fun authority => (authority.principal, authority.grant, ()),
    fun (principal, grant, ()) => ⟨principal, grant⟩, fun _ => rfl, fun _ => rfl⟩

/-- The stage a spend failed at. -/
inductive SpendFailureStage where
  | signing
  | broadcast
  | confirmation
  deriving DecidableEq

instance : UnitEnum SpendFailureStage where
  variants := [.signing, .broadcast, .confirmation]
  wire
    | .signing => "signing"
    | .broadcast => "broadcast"
    | .confirmation => "confirmation"

/-- What became of a spend. -/
inductive SpendOutcome where
  | pending
  | submitted
  | confirmed (height : UInt32) (coinId : String)
  | failed (stage : SpendFailureStage) (reason : String)
  | unresolved (reason : String)

instance : TaggedEnum SpendOutcome where
  name := "SpendOutcome"
  tag := "state"
  rows := [[], [], [UInt32, String], [SpendFailureStage, String], [String]]
  variants :=
    .unit "Pending" "pending" <|
    .unit "Submitted" "submitted" <|
    .struct "Confirmed" "confirmed" (.plain "height" <| .plain "coin_id" .nil) <|
    .struct "Failed" "failed" (.plain "stage" <| .plain "reason" .nil) <|
    .struct "Unresolved" "unresolved" (.plain "reason" .nil) .nil
  equiv := {
    toFun
      | .pending => .inl ()
      | .submitted => .inr (.inl ())
      | .confirmed height coinId => .inr (.inr (.inl (height, coinId, ())))
      | .failed stage reason => .inr (.inr (.inr (.inl (stage, reason, ()))))
      | .unresolved reason => .inr (.inr (.inr (.inr (.inl (reason, ())))))
    invFun
      | .inl () => .pending
      | .inr (.inl ()) => .submitted
      | .inr (.inr (.inl (height, coinId, ()))) => .confirmed height coinId
      | .inr (.inr (.inr (.inl (stage, reason, ())))) => .failed stage reason
      | .inr (.inr (.inr (.inr (.inl (reason, ()))))) => .unresolved reason
    left_inv value := by cases value <;> rfl
    right_inv
      | .inl _ => rfl
      | .inr (.inl _) => rfl
      | .inr (.inr (.inl _)) => rfl
      | .inr (.inr (.inr (.inl _))) => rfl
      | .inr (.inr (.inr (.inr (.inl _)))) => rfl }

/-- Where a spend is found on the chain. -/
structure SpendChainReference where
  coinId : String
  confirmed : Bool

instance : DeriveStruct SpendChainReference where
  name := "SpendChainReference"
  types := [String, Bool]
  fields := .plain "coin_id" <| .plain "confirmed" .nil
  equiv := ⟨fun reference => (reference.coinId, reference.confirmed, ()),
    fun (coinId, confirmed, ()) => ⟨coinId, confirmed⟩, fun _ => rfl, fun _ => rfl⟩

/-- A spend the node made on its own. -/
structure AutomatedSpend where
  id : String
  revision : UInt32
  kind : String
  purpose : String
  authority : SpendAuthority
  asset : SpendAsset
  amountMojos : String
  feeMojos : String
  storeId : Option String
  initiatedMs : UInt64
  updatedMs : UInt64
  status : SpendOutcome
  fundingCoinIds : List String
  chainReference : Option SpendChainReference

instance : DeriveStruct AutomatedSpend where
  name := "AutomatedSpend"
  types := [String, UInt32, String, String, SpendAuthority, SpendAsset, String, String,
    Option String, UInt64, UInt64, SpendOutcome, List String, Option SpendChainReference]
  fields := .plain "id" <| .plain "revision" <| .plain "kind" <| .plain "purpose" <|
    .plain "authority" <| .plain "asset" <| .plain "amount_mojos" <| .plain "fee_mojos" <|
    .plain "store_id" <| .plain "initiated_ms" <| .plain "updated_ms" <| .plain "status" <|
    .plain "funding_coin_ids" <| .required "chain_reference" .nil
  equiv := ⟨fun spend => (spend.id, spend.revision, spend.kind, spend.purpose, spend.authority,
    spend.asset, spend.amountMojos, spend.feeMojos, spend.storeId, spend.initiatedMs,
    spend.updatedMs, spend.status, spend.fundingCoinIds, spend.chainReference, ()),
    fun (id, revision, kind, purpose, authority, asset, amountMojos, feeMojos, storeId,
      initiatedMs, updatedMs, status, fundingCoinIds, chainReference, ()) =>
      ⟨id, revision, kind, purpose, authority, asset, amountMojos, feeMojos, storeId, initiatedMs,
        updatedMs, status, fundingCoinIds, chainReference⟩, fun _ => rfl, fun _ => rfl⟩

/-- The result of `control.spends.list`. -/
structure SpendsListResult where
  spends : List AutomatedSpend
  complete : Bool
  cursor : Option String
  unreadableLines : UInt32

instance : DeriveStruct SpendsListResult where
  name := "SpendsListResult"
  types := [List AutomatedSpend, Bool, Option String, UInt32]
  fields := .plain "spends" <| .plain "complete" <| .required "cursor" <|
    .plain "unreadable_lines" .nil
  equiv := ⟨fun result => (result.spends, result.complete, result.cursor, result.unreadableLines,
    ()),
    fun (spends, complete, cursor, unreadableLines, ()) =>
      ⟨spends, complete, cursor, unreadableLines⟩, fun _ => rfl, fun _ => rfl⟩

end ControlInterface
