import ControlInterface.Envelope
import ControlInterface.Method
import ControlInterface.Results.Collateral

/-!
# The client and the node

The two sides of the interface: a client builds requests from typed params and
parses responses into typed results, and a node that implements every method of the
catalog serves requests through the dispatcher.
-/

namespace ControlInterface

open Serde

/-! ## The client -/

/-- A params type with the method it calls and the type of the result it expects. -/
class ControlCall (C : Type) (Output : outParam Type) where
  method : ControlMethod

/-- The params of a call as JSON, never `null`. -/
def paramsValue {C : Type} [Serialize C] (call : C) : Json :=
  match (toValue call).view with
  | .null => .object .empty
  | _ => toValue call

def buildRequest {C Output : Type} [Serialize C] [ControlCall C Output] (id : RequestId)
    (call : C) : JsonRpcRequest :=
  .new id (ControlCall.method C).name (paramsValue call)

/-- The typed result of a call, or the error that came instead of it. -/
def parseResponse (env : Environment) (C : Type) {Output : Type} [ControlCall C Output]
    [Deserialize Output] (response : JsonRpcResponse) : Except ControlError Output := do
  let value ← response.intoResult
  mapErr (fun error => .of .controlError ("failed to parse " ++ (ControlCall.method C).name
    ++ " result: " ++ error.display env.formatter)) (fromValue value)

/-! ## The node -/

section Node

variable (m : Type → Type)

/-- What a handler method computes: a result or an error, with the effects of the
node. -/
abbrev Answer (α : Type) : Type := ExceptT ControlError m α

/-- A node: an implementation of every method. -/
structure ControlHandler where
  status : Answer m StatusResult
  configGet : Answer m ConfigResult
  configSetUpstream : SetUpstreamParams → Answer m SetUpstreamResult
  configSetMirrorAdvertiseUrls : SetMirrorAdvertiseUrlsParams →
      Answer m SetMirrorAdvertiseUrlsResult
  logSetLevel : SetLevelParams → Answer m SetLevelResult
  cacheGet : Answer m CacheView
  cacheSetCap : SetCapParams → Answer m SetCapResult
  cacheClear : Answer m CacheClearResult
  hostedStoresList : Answer m HostedStoresListResult
  hostedStoresPin : PinParams → Answer m PinResult
  hostedStoresUnpin : UnpinParams → Answer m UnpinResult
  hostedStoresStatus : HostedStoreStatusParams → Answer m HostedStoreStatusResult
  capsuleFetch : CapsuleFetchParams → Answer m CapsuleFetchResult
  syncStatus : Answer m SyncStatusResult
  syncTrigger : SyncTriggerParams → Answer m SyncTriggerResult
  updaterStatus : Answer m Json
  updaterSetChannel : SetChannelParams → Answer m Json
  updaterPause : PauseParams → Answer m Json
  updaterResume : Answer m Json
  updaterCheckNow : Answer m Json
  pairingList : Answer m Json
  pairingApprove : ApproveParams → Answer m PairingApproveResult
  pairingRevoke : RevokeParams → Answer m PairingRevokeResult
  peerStatus : Answer m Json
  peersConnect : PeersConnectParams → Answer m PeersConnectResult
  peersDisconnect : PeersDisconnectParams → Answer m PeersDisconnectResult
  chiaPeersAdd : ChiaPeersAddParams → Answer m ChiaPeersAddResult
  chiaPeersList : Answer m ChiaPeersListResult
  chiaPeersRemove : ChiaPeersRemoveParams → Answer m ChiaPeersRemoveResult
  subscribe : SubscribeParams → Answer m SubscribeResult
  unsubscribe : UnsubscribeParams → Answer m UnsubscribeResult
  listSubscriptions : Answer m ListSubscriptionsResult
  walletBalance : WalletBalanceParams → Answer m WalletBalanceResult
  walletCoins : WalletCoinsParams → Answer m WalletCoinsResult
  walletCoinById : WalletCoinByIdParams → Answer m WalletCoinByIdResult
  walletCoinSpend : WalletCoinSpendParams → Answer m WalletCoinSpendResult
  walletCoinsByParent : WalletCoinsByParentParams → Answer m WalletCoinsByParentResult
  walletArrivals : WalletArrivalsParams → Answer m WalletArrivalsResult
  walletPeak : Answer m WalletPeakResult
  walletOperatorAddress : Answer m WalletOperatorAddressResult
  peerCounts : Answer m PeerCountsResult
  walletSyncStatus : Answer m WalletSyncStatusResult
  walletBroadcast : WalletBroadcastParams → Answer m WalletBroadcastResult
  walletWatch : WalletWatchParams → Answer m WalletWatchResult
  walletUnwatch : WalletUnwatchParams → Answer m WalletUnwatchResult
  walletWatched : Answer m WalletWatchedResult
  walletResetCoinDb : WalletResetCoinDbParams → Answer m WalletResetCoinDbResult
  walletReservationsHeld : Answer m WalletReservationsHeldResult
  walletReservationsReserve : WalletReservationsReserveParams →
      Answer m WalletReservationsReserveResult
  walletReservationsRelease : WalletReservationsReleaseParams →
      Answer m WalletReservationsReleaseResult
  spendsList : SpendsListParams → Answer m SpendsListResult
  collateralRequirement : Answer m CollateralRequirementResult
  collateralMarginGet : Answer m CollateralMarginResult
  collateralMarginSet : CollateralMarginSetParams → Answer m CollateralMarginResult
  collateralBuffer : Answer m CollateralBufferResult
  mirrorBondStates : MirrorBondStatesParams → Answer m MirrorBondStatesResult
  mirrorReconcile : MirrorReconcileParams → Answer m MirrorReconcileResult
  profilePutBody : ProfilePutBodyParams → Answer m ProfilePutBodyResult
  profileGetBody : ProfileGetBodyParams → Answer m ProfileGetBodyResult
  pairingRequest : RequestParams → Answer m PairingRequestResult
  pairingPoll : PollParams → Answer m PairingPollResult

end Node

namespace ControlHandler

variable {m : Type → Type} [Monad m]

/-- The params of a request as those of a method. -/
def decode (env : Environment) {P : Type} [Deserialize P] (params : Json) :
    Except ControlError P :=
  mapErr (fun error => .of .invalidParams (error.display env.formatter)) (fromValue params)

/-- The result of a method as JSON. -/
def encode {R : Type} [Serialize R] (result : R) : Answer m Json := pure (toValue result)

/-- Serve a method: decode the params, call the handler method, encode its result. -/
def dispatchMethod (env : Environment) (handler : ControlHandler m) (method : ControlMethod)
    (params : Json) : Answer m Json :=
  match method with
  | .status => do encode (← handler.status)
  | .configGet => do encode (← handler.configGet)
  | .configSetUpstream => do encode (← handler.configSetUpstream (← decode env params))
  | .configSetMirrorAdvertiseUrls => do
      let params : SetMirrorAdvertiseUrlsParams ← decode env params
      encode (← handler.configSetMirrorAdvertiseUrls (← params.validated env))
  | .logSetLevel => do encode (← handler.logSetLevel (← decode env params))
  | .cacheGet => do encode (← handler.cacheGet)
  | .cacheSetCap => do encode (← handler.cacheSetCap (← decode env params))
  | .cacheClear => do encode (← handler.cacheClear)
  | .hostedStoresList => do encode (← handler.hostedStoresList)
  | .hostedStoresPin => do encode (← handler.hostedStoresPin (← decode env params))
  | .hostedStoresUnpin => do encode (← handler.hostedStoresUnpin (← decode env params))
  | .hostedStoresStatus => do encode (← handler.hostedStoresStatus (← decode env params))
  | .capsuleFetch => do encode (← handler.capsuleFetch (← decode env params))
  | .syncStatus => do encode (← handler.syncStatus)
  | .syncTrigger => do encode (← handler.syncTrigger (← decode env params))
  | .updaterStatus => handler.updaterStatus
  | .updaterSetChannel => do handler.updaterSetChannel (← decode env params)
  | .updaterPause => do handler.updaterPause (← decode env params)
  | .updaterResume => handler.updaterResume
  | .updaterCheckNow => handler.updaterCheckNow
  | .pairingList => handler.pairingList
  | .pairingApprove => do encode (← handler.pairingApprove (← decode env params))
  | .pairingRevoke => do encode (← handler.pairingRevoke (← decode env params))
  | .peerStatus => handler.peerStatus
  | .peerCounts => do encode (← handler.peerCounts)
  | .peersConnect => do encode (← handler.peersConnect (← decode env params))
  | .peersDisconnect => do encode (← handler.peersDisconnect (← decode env params))
  | .chiaPeersAdd => do encode (← handler.chiaPeersAdd (← decode env params))
  | .chiaPeersList => do encode (← handler.chiaPeersList)
  | .chiaPeersRemove => do encode (← handler.chiaPeersRemove (← decode env params))
  | .subscribe => do encode (← handler.subscribe (← decode env params))
  | .unsubscribe => do encode (← handler.unsubscribe (← decode env params))
  | .listSubscriptions => do encode (← handler.listSubscriptions)
  | .walletBalance => do encode (← handler.walletBalance (← decode env params))
  | .walletCoins => do encode (← handler.walletCoins (← decode env params))
  | .walletCoinById => do
      let params : WalletCoinByIdParams ← decode env params
      encode (← handler.walletCoinById (← SelfValidating.validated params))
  | .walletCoinSpend => do
      let params : WalletCoinSpendParams ← decode env params
      encode (← handler.walletCoinSpend (← SelfValidating.validated params))
  | .walletCoinsByParent => do
      let params : WalletCoinsByParentParams ← decode env params
      encode (← handler.walletCoinsByParent (← SelfValidating.validated params))
  | .walletArrivals => do encode (← handler.walletArrivals (← decode env params))
  | .walletPeak => do encode (← handler.walletPeak)
  | .walletOperatorAddress => do encode (← handler.walletOperatorAddress)
  | .walletSyncStatus => do encode (← handler.walletSyncStatus)
  | .walletBroadcast => do encode (← handler.walletBroadcast (← decode env params))
  | .walletWatch => do
      let params : WalletWatchParams ← decode env params
      encode (← handler.walletWatch (← SelfValidating.validated params))
  | .walletUnwatch => do
      let params : WalletUnwatchParams ← decode env params
      encode (← handler.walletUnwatch (← SelfValidating.validated params))
  | .walletWatched => do encode (← handler.walletWatched)
  | .walletResetCoinDb => do
      let params : WalletResetCoinDbParams ← decode env params
      encode (← handler.walletResetCoinDb params)
  | .walletReservationsHeld => do encode (← handler.walletReservationsHeld)
  | .walletReservationsReserve => do
      encode (← handler.walletReservationsReserve (← decode env params))
  | .walletReservationsRelease => do
      encode (← handler.walletReservationsRelease (← decode env params))
  | .collateralRequirement => do encode (← handler.collateralRequirement)
  | .collateralBuffer => do encode (← handler.collateralBuffer)
  | .mirrorBondStates => do
      let params : MirrorBondStatesParams ← decode env params
      encode (← handler.mirrorBondStates (← SelfValidating.validated params))
  | .mirrorReconcile => do encode (← handler.mirrorReconcile (← decode env params))
  | .collateralMarginGet => do encode (← handler.collateralMarginGet)
  | .collateralMarginSet => do
      let params : CollateralMarginSetParams ← decode env params
      encode (← handler.collateralMarginSet (← params.validated))
  | .spendsList => do
      let params : SpendsListParams ← decode env params
      encode (← handler.spendsList (← SelfValidating.validated params))
  | .profilePutBody => do encode (← handler.profilePutBody (← decode env params))
  | .profileGetBody => do encode (← handler.profileGetBody (← decode env params))
  | .pairingRequest => do encode (← handler.pairingRequest (← decode env params))
  | .pairingPoll => do encode (← handler.pairingPoll (← decode env params))

def dispatch (env : Environment) (handler : ControlHandler m) (request : JsonRpcRequest) :
    m JsonRpcResponse :=
  match ControlMethod.fromName request.method with
  | none =>
      return .failure request.id
        (.of .methodNotFound ("unknown control method: " ++ request.method))
  | some method => do
      match ← (handler.dispatchMethod env method request.params).run with
      | .ok result => return .success request.id result
      | .error error => return .failure request.id error

end ControlHandler

end ControlInterface
