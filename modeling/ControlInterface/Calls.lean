import ControlInterface.Traits

/-!
# The bindings of the catalog

Every params type of the catalog with the method it calls and the result it expects
(`control_call!`).
-/

namespace ControlInterface

open Serde

/-! ## Node -/

instance : ControlCall StatusParams StatusResult := ⟨.status⟩
instance : ControlCall ConfigGetParams ConfigResult := ⟨.configGet⟩
instance : ControlCall CacheGetParams CacheView := ⟨.cacheGet⟩
instance : ControlCall CacheClearParams CacheClearResult := ⟨.cacheClear⟩
instance : ControlCall HostedStoresListParams HostedStoresListResult := ⟨.hostedStoresList⟩
instance : ControlCall SyncStatusParams SyncStatusResult := ⟨.syncStatus⟩
instance : ControlCall UpdaterStatusParams Json := ⟨.updaterStatus⟩
instance : ControlCall UpdaterResumeParams Json := ⟨.updaterResume⟩
instance : ControlCall UpdaterCheckNowParams Json := ⟨.updaterCheckNow⟩
instance : ControlCall PairingListParams Json := ⟨.pairingList⟩
instance : ControlCall PeerStatusParams Json := ⟨.peerStatus⟩
instance : ControlCall ListSubscriptionsParams ListSubscriptionsResult := ⟨.listSubscriptions⟩
instance : ControlCall SetUpstreamParams SetUpstreamResult := ⟨.configSetUpstream⟩
instance : ControlCall SetMirrorAdvertiseUrlsParams SetMirrorAdvertiseUrlsResult :=
  ⟨.configSetMirrorAdvertiseUrls⟩
instance : ControlCall SetLevelParams SetLevelResult := ⟨.logSetLevel⟩
instance : ControlCall SetCapParams SetCapResult := ⟨.cacheSetCap⟩
instance : ControlCall PinParams PinResult := ⟨.hostedStoresPin⟩
instance : ControlCall UnpinParams UnpinResult := ⟨.hostedStoresUnpin⟩
instance : ControlCall HostedStoreStatusParams HostedStoreStatusResult := ⟨.hostedStoresStatus⟩
instance : ControlCall CapsuleFetchParams CapsuleFetchResult := ⟨.capsuleFetch⟩
instance : ControlCall SyncTriggerParams SyncTriggerResult := ⟨.syncTrigger⟩
instance : ControlCall SetChannelParams Json := ⟨.updaterSetChannel⟩
instance : ControlCall PauseParams Json := ⟨.updaterPause⟩
instance : ControlCall ApproveParams PairingApproveResult := ⟨.pairingApprove⟩
instance : ControlCall RevokeParams PairingRevokeResult := ⟨.pairingRevoke⟩
instance : ControlCall PeersConnectParams PeersConnectResult := ⟨.peersConnect⟩
instance : ControlCall PeersDisconnectParams PeersDisconnectResult := ⟨.peersDisconnect⟩
instance : ControlCall ChiaPeersAddParams ChiaPeersAddResult := ⟨.chiaPeersAdd⟩
instance : ControlCall ChiaPeersRemoveParams ChiaPeersRemoveResult := ⟨.chiaPeersRemove⟩
instance : ControlCall SubscribeParams SubscribeResult := ⟨.subscribe⟩
instance : ControlCall UnsubscribeParams UnsubscribeResult := ⟨.unsubscribe⟩

/-! ## Wallet -/

instance : ControlCall WalletBalanceParams WalletBalanceResult := ⟨.walletBalance⟩
instance : ControlCall WalletCoinsParams WalletCoinsResult := ⟨.walletCoins⟩
instance : ControlCall WalletCoinByIdParams WalletCoinByIdResult := ⟨.walletCoinById⟩
instance : ControlCall WalletCoinSpendParams WalletCoinSpendResult := ⟨.walletCoinSpend⟩
instance : ControlCall WalletCoinsByParentParams WalletCoinsByParentResult := ⟨.walletCoinsByParent⟩
instance : ControlCall WalletArrivalsParams WalletArrivalsResult := ⟨.walletArrivals⟩
instance : ControlCall WalletPeakParams WalletPeakResult := ⟨.walletPeak⟩
instance : ControlCall WalletOperatorAddressParams WalletOperatorAddressResult :=
  ⟨.walletOperatorAddress⟩
instance : ControlCall PeerCountsParams PeerCountsResult := ⟨.peerCounts⟩
instance : ControlCall WalletSyncStatusParams WalletSyncStatusResult := ⟨.walletSyncStatus⟩
instance : ControlCall WalletBroadcastParams WalletBroadcastResult := ⟨.walletBroadcast⟩
instance : ControlCall WalletWatchParams WalletWatchResult := ⟨.walletWatch⟩
instance : ControlCall WalletUnwatchParams WalletUnwatchResult := ⟨.walletUnwatch⟩
instance : ControlCall WalletWatchedParams WalletWatchedResult := ⟨.walletWatched⟩
instance : ControlCall WalletReservationsHeldParams WalletReservationsHeldResult :=
  ⟨.walletReservationsHeld⟩
instance : ControlCall WalletReservationsReserveParams WalletReservationsReserveResult :=
  ⟨.walletReservationsReserve⟩
instance : ControlCall WalletReservationsReleaseParams WalletReservationsReleaseResult :=
  ⟨.walletReservationsRelease⟩
instance : ControlCall WalletResetCoinDbParams WalletResetCoinDbResult := ⟨.walletResetCoinDb⟩

/-! ## Pairing and profile bodies -/

instance : ControlCall RequestParams PairingRequestResult := ⟨.pairingRequest⟩
instance : ControlCall PollParams PairingPollResult := ⟨.pairingPoll⟩
instance : ControlCall ProfilePutBodyParams ProfilePutBodyResult := ⟨.profilePutBody⟩
instance : ControlCall ProfileGetBodyParams ProfileGetBodyResult := ⟨.profileGetBody⟩

/-! ## Spends, mirror bonds and collateral -/

instance : ControlCall SpendsListParams SpendsListResult := ⟨.spendsList⟩
instance : ControlCall MirrorBondStatesParams MirrorBondStatesResult := ⟨.mirrorBondStates⟩
instance : ControlCall MirrorReconcileParams MirrorReconcileResult := ⟨.mirrorReconcile⟩
instance : ControlCall CollateralRequirementParams CollateralRequirementResult :=
  ⟨.collateralRequirement⟩
instance : ControlCall CollateralMarginGetParams CollateralMarginResult := ⟨.collateralMarginGet⟩
instance : ControlCall CollateralMarginSetParams CollateralMarginResult := ⟨.collateralMarginSet⟩
instance : ControlCall CollateralBufferParams CollateralBufferResult := ⟨.collateralBuffer⟩

end ControlInterface
