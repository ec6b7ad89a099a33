import ControlInterface.Calls
import ControlInterface.Catalog.NodeParams

/-!
# The catalog as a whole

The call types of the catalog as the values of one type, each with its binding, and
the handler method that serves each of them.  A statement about every call type or
every method is a statement about every value of these types.
-/

namespace ControlInterface

open Serde ControlHandler

/-! ## Bindings -/

/-- How results of a type are known to be encoded: as whatever JSON another service
answered, or as an object that is open to change. -/
inductive ResultShape (R : Type) [Serialize R] [Deserialize R] where
  | proxied (lawful : LawfulSerde R)
  | typed (object : OpenObject R)

/-- What is encoded is read back, whatever the shape. -/
theorem ResultShape.lawful {R : Type} [Serialize R] [Deserialize R] :
    ResultShape R → LawfulSerde R
  | .proxied lawful => lawful
  | .typed _ => inferInstance

/-- A params type with everything the two sides know of it. -/
structure Binding where
  Params : Type
  Output : Type
  [serialize : Serialize Params]
  [call : ControlCall Params Output]
  node (env : Environment) : NodeParams env Params
  [serializeOutput : Serialize Output]
  [deserializeOutput : Deserialize Output]
  shape : ResultShape Output

namespace Binding

variable {P R : Type} [Serialize P] [ControlCall P R] [Serialize R] [Deserialize R]

/-- A call whose result is whatever another service answered. -/
def proxied [lawful : LawfulSerde R] (node : (env : Environment) → NodeParams env P) : Binding where
  Params := P
  Output := R
  node := node
  shape := .proxied lawful

/-- A call with a result type of its own. -/
def typed [object : OpenObject R] (node : (env : Environment) → NodeParams env P) : Binding where
  Params := P
  Output := R
  node := node
  shape := .typed object

end Binding

/-! ## Call types -/

/-- The call types: one for each params type of the catalog. -/
inductive CallType where
  | status
  | configGet
  | cacheGet
  | cacheClear
  | hostedStoresList
  | syncStatus
  | updaterStatus
  | updaterResume
  | updaterCheckNow
  | pairingList
  | peerStatus
  | listSubscriptions
  | setUpstream
  | setMirrorAdvertiseUrls
  | setLevel
  | setCap
  | pin
  | unpin
  | hostedStoreStatus
  | capsuleFetch
  | syncTrigger
  | setChannel
  | pause
  | approve
  | revoke
  | peersConnect
  | peersDisconnect
  | chiaPeersAdd
  | chiaPeersRemove
  | subscribe
  | unsubscribe
  | walletBalance
  | walletCoins
  | walletCoinById
  | walletCoinSpend
  | walletCoinsByParent
  | walletArrivals
  | walletPeak
  | walletOperatorAddress
  | peerCounts
  | walletSyncStatus
  | walletBroadcast
  | walletWatch
  | walletUnwatch
  | walletWatched
  | walletReservationsHeld
  | walletReservationsReserve
  | walletReservationsRelease
  | walletResetCoinDb
  | request
  | poll
  | profilePutBody
  | profileGetBody
  | spendsList
  | mirrorBondStates
  | mirrorReconcile
  | collateralRequirement
  | collateralMarginGet
  | collateralMarginSet
  | collateralBuffer
  deriving DecidableEq

namespace CallType

/-- The binding of a call type, and how the node takes its params. -/
def binding : CallType → Binding
  | .status => .typed (.ignored · StatusParams)
  | .configGet => .typed (.ignored · ConfigGetParams)
  | .cacheGet => .typed (.ignored · CacheGetParams)
  | .cacheClear => .typed (.ignored · CacheClearParams)
  | .hostedStoresList => .typed (.ignored · HostedStoresListParams)
  | .syncStatus => .typed (.ignored · SyncStatusParams)
  | .updaterStatus => .proxied (.ignored · UpdaterStatusParams)
  | .updaterResume => .proxied (.ignored · UpdaterResumeParams)
  | .updaterCheckNow => .proxied (.ignored · UpdaterCheckNowParams)
  | .pairingList => .proxied (.ignored · PairingListParams)
  | .peerStatus => .proxied (.ignored · PeerStatusParams)
  | .listSubscriptions => .typed (.ignored · ListSubscriptionsParams)
  | .setUpstream => .typed (.decoded · SetUpstreamParams)
  | .setMirrorAdvertiseUrls => .typed fun env =>
      .validatedBy env _ (SetMirrorAdvertiseUrlsParams.validated env)
        SetMirrorAdvertiseUrlsParams.validated_idem
        SetMirrorAdvertiseUrlsParams.isRefusal_of_validated
  | .setLevel => .typed (.decoded · SetLevelParams)
  | .setCap => .typed (.decoded · SetCapParams)
  | .pin => .typed (.decoded · PinParams)
  | .unpin => .typed (.decoded · UnpinParams)
  | .hostedStoreStatus => .typed (.decoded · HostedStoreStatusParams)
  | .capsuleFetch => .typed (.decoded · CapsuleFetchParams)
  | .syncTrigger => .typed (.decoded · SyncTriggerParams)
  | .setChannel => .proxied (.decoded · SetChannelParams)
  | .pause => .proxied (.decoded · PauseParams)
  | .approve => .typed (.decoded · ApproveParams)
  | .revoke => .typed (.decoded · RevokeParams)
  | .peersConnect => .typed (.decoded · PeersConnectParams)
  | .peersDisconnect => .typed (.decoded · PeersDisconnectParams)
  | .chiaPeersAdd => .typed (.decoded · ChiaPeersAddParams)
  | .chiaPeersRemove => .typed (.decoded · ChiaPeersRemoveParams)
  | .subscribe => .typed (.decoded · SubscribeParams)
  | .unsubscribe => .typed (.decoded · UnsubscribeParams)
  | .walletBalance => .typed (.decoded · WalletBalanceParams)
  | .walletCoins => .typed (.selfValidating · WalletCoinsParams)
  | .walletCoinById => .typed (.selfValidating · WalletCoinByIdParams)
  | .walletCoinSpend => .typed (.selfValidating · WalletCoinSpendParams)
  | .walletCoinsByParent => .typed (.selfValidating · WalletCoinsByParentParams)
  | .walletArrivals => .typed (.decoded · WalletArrivalsParams)
  | .walletPeak => .typed (.ignored · WalletPeakParams)
  | .walletOperatorAddress => .typed (.ignored · WalletOperatorAddressParams)
  | .peerCounts => .typed (.ignored · PeerCountsParams)
  | .walletSyncStatus => .typed (.ignored · WalletSyncStatusParams)
  | .walletBroadcast => .typed (.decoded · WalletBroadcastParams)
  | .walletWatch => .typed (.selfValidating · WalletWatchParams)
  | .walletUnwatch => .typed (.selfValidating · WalletUnwatchParams)
  | .walletWatched => .typed (.ignored · WalletWatchedParams)
  | .walletReservationsHeld => .typed (.ignored · WalletReservationsHeldParams)
  | .walletReservationsReserve => .typed (.selfValidating · WalletReservationsReserveParams)
  | .walletReservationsRelease => .typed (.decoded · WalletReservationsReleaseParams)
  | .walletResetCoinDb => .typed (.decoded · WalletResetCoinDbParams)
  | .request => .typed (.decoded · RequestParams)
  | .poll => .typed (.decoded · PollParams)
  | .profilePutBody => .typed (.decoded · ProfilePutBodyParams)
  | .profileGetBody => .typed (.decoded · ProfileGetBodyParams)
  | .spendsList => .typed (.selfValidating · SpendsListParams)
  | .mirrorBondStates => .typed (.selfValidating · MirrorBondStatesParams)
  | .mirrorReconcile => .typed (.decoded · MirrorReconcileParams)
  | .collateralRequirement => .typed (.ignored · CollateralRequirementParams)
  | .collateralMarginGet => .typed (.ignored · CollateralMarginGetParams)
  | .collateralMarginSet => .typed fun env =>
      .validatedBy env _ CollateralMarginSetParams.validated
        CollateralMarginSetParams.validated_idem
        CollateralMarginSetParams.isRefusal_of_validated
  | .collateralBuffer => .typed (.ignored · CollateralBufferParams)

/-- The params of a call. -/
abbrev Params (C : CallType) : Type := C.binding.Params

/-- The result a call expects. -/
abbrev Output (C : CallType) : Type := C.binding.Output

instance (C : CallType) : Serialize C.Params := C.binding.serialize
instance (C : CallType) : ControlCall C.Params C.Output := C.binding.call
instance (C : CallType) : Serialize C.Output := C.binding.serializeOutput
instance (C : CallType) : Deserialize C.Output := C.binding.deserializeOutput
instance (C : CallType) : LawfulSerde C.Output := C.binding.shape.lawful

/-- The method a call type is bound to. -/
def method (C : CallType) : ControlMethod := ControlCall.method C.Params

/-- Decode and validate the params of a call. -/
def accept (env : Environment) (C : CallType) : Json → Except ControlError C.Params :=
  (C.binding.node env).accept

/-- The validating constructor of a call type, if it has one. -/
def validated (env : Environment) (C : CallType) : C.Params → Except ControlError C.Params :=
  (C.binding.node env).validated

/-- The fields of the params. -/
def declared (env : Environment) (C : CallType) : List String := (C.binding.node env).declared

/-- The handler method of a call type. -/
def serve {m : Type → Type} (handler : ControlHandler m) :
    (C : CallType) → C.Params → Answer m C.Output
  | .status, _ => handler.status
  | .configGet, _ => handler.configGet
  | .cacheGet, _ => handler.cacheGet
  | .cacheClear, _ => handler.cacheClear
  | .hostedStoresList, _ => handler.hostedStoresList
  | .syncStatus, _ => handler.syncStatus
  | .updaterStatus, _ => handler.updaterStatus
  | .updaterResume, _ => handler.updaterResume
  | .updaterCheckNow, _ => handler.updaterCheckNow
  | .pairingList, _ => handler.pairingList
  | .peerStatus, _ => handler.peerStatus
  | .listSubscriptions, _ => handler.listSubscriptions
  | .setUpstream, params => handler.configSetUpstream params
  | .setMirrorAdvertiseUrls, params => handler.configSetMirrorAdvertiseUrls params
  | .setLevel, params => handler.logSetLevel params
  | .setCap, params => handler.cacheSetCap params
  | .pin, params => handler.hostedStoresPin params
  | .unpin, params => handler.hostedStoresUnpin params
  | .hostedStoreStatus, params => handler.hostedStoresStatus params
  | .capsuleFetch, params => handler.capsuleFetch params
  | .syncTrigger, params => handler.syncTrigger params
  | .setChannel, params => handler.updaterSetChannel params
  | .pause, params => handler.updaterPause params
  | .approve, params => handler.pairingApprove params
  | .revoke, params => handler.pairingRevoke params
  | .peersConnect, params => handler.peersConnect params
  | .peersDisconnect, params => handler.peersDisconnect params
  | .chiaPeersAdd, params => handler.chiaPeersAdd params
  | .chiaPeersRemove, params => handler.chiaPeersRemove params
  | .subscribe, params => handler.subscribe params
  | .unsubscribe, params => handler.unsubscribe params
  | .walletBalance, params => handler.walletBalance params
  | .walletCoins, params => handler.walletCoins params
  | .walletCoinById, params => handler.walletCoinById params
  | .walletCoinSpend, params => handler.walletCoinSpend params
  | .walletCoinsByParent, params => handler.walletCoinsByParent params
  | .walletArrivals, params => handler.walletArrivals params
  | .walletPeak, _ => handler.walletPeak
  | .walletOperatorAddress, _ => handler.walletOperatorAddress
  | .peerCounts, _ => handler.peerCounts
  | .walletSyncStatus, _ => handler.walletSyncStatus
  | .walletBroadcast, params => handler.walletBroadcast params
  | .walletWatch, params => handler.walletWatch params
  | .walletUnwatch, params => handler.walletUnwatch params
  | .walletWatched, _ => handler.walletWatched
  | .walletReservationsHeld, _ => handler.walletReservationsHeld
  | .walletReservationsReserve, params => handler.walletReservationsReserve params
  | .walletReservationsRelease, params => handler.walletReservationsRelease params
  | .walletResetCoinDb, params => handler.walletResetCoinDb params
  | .request, params => handler.pairingRequest params
  | .poll, params => handler.pairingPoll params
  | .profilePutBody, params => handler.profilePutBody params
  | .profileGetBody, params => handler.profileGetBody params
  | .spendsList, params => handler.spendsList params
  | .mirrorBondStates, params => handler.mirrorBondStates params
  | .mirrorReconcile, params => handler.mirrorReconcile params
  | .collateralRequirement, _ => handler.collateralRequirement
  | .collateralMarginGet, _ => handler.collateralMarginGet
  | .collateralMarginSet, params => handler.collateralMarginSet params
  | .collateralBuffer, _ => handler.collateralBuffer

end CallType

/-! ## Handler methods -/

/-- The methods of a handler: one for each call type, and one that no call type is
bound to. -/
inductive HandlerMethod where
  | bound (C : CallType)
  | chiaPeersList

namespace HandlerMethod

/-- What a handler method is called with. -/
abbrev Params : HandlerMethod → Type
  | .bound C => C.Params
  | .chiaPeersList => Unit

/-- What a handler method returns. -/
abbrev Output : HandlerMethod → Type
  | .bound C => C.Output
  | .chiaPeersList => ChiaPeersListResult

instance : (H : HandlerMethod) → Serialize H.Output
  | .bound C => inferInstanceAs (Serialize C.Output)
  | .chiaPeersList => inferInstanceAs (Serialize ChiaPeersListResult)

instance : (H : HandlerMethod) → Deserialize H.Output
  | .bound C => inferInstanceAs (Deserialize C.Output)
  | .chiaPeersList => inferInstanceAs (Deserialize ChiaPeersListResult)

/-- How the results of a handler method are encoded. -/
def shape : (H : HandlerMethod) → ResultShape H.Output
  | .bound C => C.binding.shape
  | .chiaPeersList => .typed (inferInstanceAs (OpenObject ChiaPeersListResult))

/-- The method of the catalog that a handler method implements. -/
def method : HandlerMethod → ControlMethod
  | .bound C => C.method
  | .chiaPeersList => .chiaPeersList

/-- Decode and validate what a handler method is called with. -/
def accept (env : Environment) : (H : HandlerMethod) → Json → Except ControlError H.Params
  | .bound C => C.accept env
  | .chiaPeersList => fun _ => .ok ()

/-- The fields of the params. -/
def declared (env : Environment) : HandlerMethod → List String
  | .bound C => C.declared env
  | .chiaPeersList => []

/-- Call a handler method. -/
def serve {m : Type → Type} (handler : ControlHandler m) :
    (H : HandlerMethod) → H.Params → Answer m H.Output
  | .bound C => C.serve handler
  | .chiaPeersList => fun _ => handler.chiaPeersList

/-- The handler method that implements a method of the catalog. -/
def ofMethod : ControlMethod → HandlerMethod
  | .status => .bound .status
  | .configGet => .bound .configGet
  | .configSetUpstream => .bound .setUpstream
  | .configSetMirrorAdvertiseUrls => .bound .setMirrorAdvertiseUrls
  | .logSetLevel => .bound .setLevel
  | .cacheGet => .bound .cacheGet
  | .cacheSetCap => .bound .setCap
  | .cacheClear => .bound .cacheClear
  | .hostedStoresList => .bound .hostedStoresList
  | .hostedStoresPin => .bound .pin
  | .hostedStoresUnpin => .bound .unpin
  | .hostedStoresStatus => .bound .hostedStoreStatus
  | .capsuleFetch => .bound .capsuleFetch
  | .syncStatus => .bound .syncStatus
  | .syncTrigger => .bound .syncTrigger
  | .updaterStatus => .bound .updaterStatus
  | .updaterSetChannel => .bound .setChannel
  | .updaterPause => .bound .pause
  | .updaterResume => .bound .updaterResume
  | .updaterCheckNow => .bound .updaterCheckNow
  | .pairingList => .bound .pairingList
  | .pairingApprove => .bound .approve
  | .pairingRevoke => .bound .revoke
  | .peerStatus => .bound .peerStatus
  | .peerCounts => .bound .peerCounts
  | .peersConnect => .bound .peersConnect
  | .peersDisconnect => .bound .peersDisconnect
  | .chiaPeersAdd => .bound .chiaPeersAdd
  | .chiaPeersList => .chiaPeersList
  | .chiaPeersRemove => .bound .chiaPeersRemove
  | .subscribe => .bound .subscribe
  | .unsubscribe => .bound .unsubscribe
  | .listSubscriptions => .bound .listSubscriptions
  | .walletBalance => .bound .walletBalance
  | .walletCoins => .bound .walletCoins
  | .walletCoinById => .bound .walletCoinById
  | .walletCoinSpend => .bound .walletCoinSpend
  | .walletCoinsByParent => .bound .walletCoinsByParent
  | .walletArrivals => .bound .walletArrivals
  | .walletOperatorAddress => .bound .walletOperatorAddress
  | .walletPeak => .bound .walletPeak
  | .walletSyncStatus => .bound .walletSyncStatus
  | .walletBroadcast => .bound .walletBroadcast
  | .walletWatch => .bound .walletWatch
  | .walletUnwatch => .bound .walletUnwatch
  | .walletWatched => .bound .walletWatched
  | .walletReservationsHeld => .bound .walletReservationsHeld
  | .walletReservationsReserve => .bound .walletReservationsReserve
  | .walletReservationsRelease => .bound .walletReservationsRelease
  | .walletResetCoinDb => .bound .walletResetCoinDb
  | .spendsList => .bound .spendsList
  | .collateralRequirement => .bound .collateralRequirement
  | .collateralMarginGet => .bound .collateralMarginGet
  | .collateralMarginSet => .bound .collateralMarginSet
  | .collateralBuffer => .bound .collateralBuffer
  | .mirrorBondStates => .bound .mirrorBondStates
  | .mirrorReconcile => .bound .mirrorReconcile
  | .profilePutBody => .bound .profilePutBody
  | .profileGetBody => .bound .profileGetBody
  | .pairingRequest => .bound .request
  | .pairingPoll => .bound .poll

theorem method_ofMethod (method : ControlMethod) : (ofMethod method).method = method := by
  cases method <;> rfl

theorem ofMethod_method (H : HandlerMethod) : ofMethod H.method = H := by
  cases H with
  | bound C => cases C <;> rfl
  | chiaPeersList => rfl

theorem method_injective : Function.Injective method :=
  Function.LeftInverse.injective ofMethod_method

/-- Different handler methods implement methods of different names. -/
theorem name_injective : Function.Injective fun H : HandlerMethod => H.method.name :=
  fun _ _ same => method_injective (ControlMethod.name_injective same)

end HandlerMethod

/-- A call of a handler method with its params. -/
abbrev HandlerCall : Type := (H : HandlerMethod) × H.Params

namespace ControlHandler

variable {m : Type → Type}

/-- The handler with the given implementation of every method. -/
def ofServe (serve : (H : HandlerMethod) → H.Params → Answer m H.Output) : ControlHandler m where
  status := serve (.bound .status) ⟨⟩
  configGet := serve (.bound .configGet) ⟨⟩
  configSetUpstream := serve (.bound .setUpstream)
  configSetMirrorAdvertiseUrls := serve (.bound .setMirrorAdvertiseUrls)
  logSetLevel := serve (.bound .setLevel)
  cacheGet := serve (.bound .cacheGet) ⟨⟩
  cacheSetCap := serve (.bound .setCap)
  cacheClear := serve (.bound .cacheClear) ⟨⟩
  hostedStoresList := serve (.bound .hostedStoresList) ⟨⟩
  hostedStoresPin := serve (.bound .pin)
  hostedStoresUnpin := serve (.bound .unpin)
  hostedStoresStatus := serve (.bound .hostedStoreStatus)
  capsuleFetch := serve (.bound .capsuleFetch)
  syncStatus := serve (.bound .syncStatus) ⟨⟩
  syncTrigger := serve (.bound .syncTrigger)
  updaterStatus := serve (.bound .updaterStatus) ⟨⟩
  updaterSetChannel := serve (.bound .setChannel)
  updaterPause := serve (.bound .pause)
  updaterResume := serve (.bound .updaterResume) ⟨⟩
  updaterCheckNow := serve (.bound .updaterCheckNow) ⟨⟩
  pairingList := serve (.bound .pairingList) ⟨⟩
  pairingApprove := serve (.bound .approve)
  pairingRevoke := serve (.bound .revoke)
  peerStatus := serve (.bound .peerStatus) ⟨⟩
  peersConnect := serve (.bound .peersConnect)
  peersDisconnect := serve (.bound .peersDisconnect)
  chiaPeersAdd := serve (.bound .chiaPeersAdd)
  chiaPeersList := serve .chiaPeersList ()
  chiaPeersRemove := serve (.bound .chiaPeersRemove)
  subscribe := serve (.bound .subscribe)
  unsubscribe := serve (.bound .unsubscribe)
  listSubscriptions := serve (.bound .listSubscriptions) ⟨⟩
  walletBalance := serve (.bound .walletBalance)
  walletCoins := serve (.bound .walletCoins)
  walletCoinById := serve (.bound .walletCoinById)
  walletCoinSpend := serve (.bound .walletCoinSpend)
  walletCoinsByParent := serve (.bound .walletCoinsByParent)
  walletArrivals := serve (.bound .walletArrivals)
  walletPeak := serve (.bound .walletPeak) ⟨⟩
  walletOperatorAddress := serve (.bound .walletOperatorAddress) ⟨⟩
  peerCounts := serve (.bound .peerCounts) ⟨⟩
  walletSyncStatus := serve (.bound .walletSyncStatus) ⟨⟩
  walletBroadcast := serve (.bound .walletBroadcast)
  walletWatch := serve (.bound .walletWatch)
  walletUnwatch := serve (.bound .walletUnwatch)
  walletWatched := serve (.bound .walletWatched) ⟨⟩
  walletResetCoinDb := serve (.bound .walletResetCoinDb)
  walletReservationsHeld := serve (.bound .walletReservationsHeld) ⟨⟩
  walletReservationsReserve := serve (.bound .walletReservationsReserve)
  walletReservationsRelease := serve (.bound .walletReservationsRelease)
  spendsList := serve (.bound .spendsList)
  collateralRequirement := serve (.bound .collateralRequirement) ⟨⟩
  collateralMarginGet := serve (.bound .collateralMarginGet) ⟨⟩
  collateralMarginSet := serve (.bound .collateralMarginSet)
  collateralBuffer := serve (.bound .collateralBuffer) ⟨⟩
  mirrorBondStates := serve (.bound .mirrorBondStates)
  mirrorReconcile := serve (.bound .mirrorReconcile)
  profilePutBody := serve (.bound .profilePutBody)
  profileGetBody := serve (.bound .profileGetBody)
  pairingRequest := serve (.bound .request)
  pairingPoll := serve (.bound .poll)

theorem serve_ofServe (serve : (H : HandlerMethod) → H.Params → Answer m H.Output)
    (H : HandlerMethod) (params : H.Params) : H.serve (ofServe serve) params = serve H params := by
  cases H with
  | bound C => cases C <;> rfl
  | chiaPeersList => rfl

end ControlHandler

end ControlInterface
