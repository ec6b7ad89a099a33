import ControlInterface.Serde.Enum

/-!
# The method catalog

The methods of the control interface and the wire name of each of them.
-/

namespace ControlInterface

/-- How a node resolves a method. -/
inductive Routing where
  | owned
  | delegated
  | openBootstrap
  deriving DecidableEq

/-- A method of the control interface. -/
inductive ControlMethod where
  | status
  | configGet
  | configSetUpstream
  | configSetMirrorAdvertiseUrls
  | logSetLevel
  | cacheGet
  | cacheSetCap
  | cacheClear
  | hostedStoresList
  | hostedStoresPin
  | hostedStoresUnpin
  | hostedStoresStatus
  | capsuleFetch
  | syncStatus
  | syncTrigger
  | updaterStatus
  | updaterSetChannel
  | updaterPause
  | updaterResume
  | updaterCheckNow
  | pairingList
  | pairingApprove
  | pairingRevoke
  | peerStatus
  | peerCounts
  | peersConnect
  | peersDisconnect
  | chiaPeersAdd
  | chiaPeersList
  | chiaPeersRemove
  | subscribe
  | unsubscribe
  | listSubscriptions
  | walletBalance
  | walletCoins
  | walletCoinById
  | walletCoinSpend
  | walletCoinsByParent
  | walletArrivals
  | walletOperatorAddress
  | walletPeak
  | walletSyncStatus
  | walletBroadcast
  | walletWatch
  | walletUnwatch
  | walletWatched
  | walletReservationsHeld
  | walletReservationsReserve
  | walletReservationsRelease
  | walletResetCoinDb
  | spendsList
  | collateralRequirement
  | collateralMarginGet
  | collateralMarginSet
  | collateralBuffer
  | mirrorBondStates
  | mirrorReconcile
  | profilePutBody
  | profileGetBody
  | pairingRequest
  | pairingPoll
  deriving DecidableEq

namespace ControlMethod

/-- The wire name of a method. -/
def name : ControlMethod → String
  | .status => "control.status"
  | .configGet => "control.config.get"
  | .configSetUpstream => "control.config.setUpstream"
  | .configSetMirrorAdvertiseUrls => "control.config.setMirrorAdvertiseUrls"
  | .logSetLevel => "control.log.setLevel"
  | .cacheGet => "control.cache.get"
  | .cacheSetCap => "control.cache.setCap"
  | .cacheClear => "control.cache.clear"
  | .hostedStoresList => "control.hostedStores.list"
  | .hostedStoresPin => "control.hostedStores.pin"
  | .hostedStoresUnpin => "control.hostedStores.unpin"
  | .hostedStoresStatus => "control.hostedStores.status"
  | .capsuleFetch => "control.capsule.fetch"
  | .syncStatus => "control.sync.status"
  | .syncTrigger => "control.sync.trigger"
  | .updaterStatus => "control.updater.status"
  | .updaterSetChannel => "control.updater.setChannel"
  | .updaterPause => "control.updater.pause"
  | .updaterResume => "control.updater.resume"
  | .updaterCheckNow => "control.updater.checkNow"
  | .pairingList => "control.pairing.list"
  | .pairingApprove => "control.pairing.approve"
  | .pairingRevoke => "control.pairing.revoke"
  | .peerStatus => "control.peerStatus"
  | .peerCounts => "control.peerCounts"
  | .peersConnect => "control.peers.connect"
  | .peersDisconnect => "control.peers.disconnect"
  | .chiaPeersAdd => "control.chiaPeers.add"
  | .chiaPeersList => "control.chiaPeers.list"
  | .chiaPeersRemove => "control.chiaPeers.remove"
  | .subscribe => "control.subscribe"
  | .unsubscribe => "control.unsubscribe"
  | .listSubscriptions => "control.listSubscriptions"
  | .walletBalance => "control.wallet.balance"
  | .walletCoins => "control.wallet.coins"
  | .walletCoinById => "control.wallet.coinById"
  | .walletCoinSpend => "control.wallet.coinSpend"
  | .walletCoinsByParent => "control.wallet.coinsByParent"
  | .walletArrivals => "control.wallet.arrivals"
  | .walletOperatorAddress => "control.wallet.operatorAddress"
  | .walletPeak => "control.wallet.peak"
  | .walletSyncStatus => "control.wallet.syncStatus"
  | .walletBroadcast => "control.wallet.broadcast"
  | .walletWatch => "control.wallet.watch"
  | .walletUnwatch => "control.wallet.unwatch"
  | .walletWatched => "control.wallet.watched"
  | .walletReservationsHeld => "control.wallet.reservations.held"
  | .walletReservationsReserve => "control.wallet.reservations.reserve"
  | .walletReservationsRelease => "control.wallet.reservations.release"
  | .walletResetCoinDb => "control.wallet.resetCoinDb"
  | .spendsList => "control.spends.list"
  | .collateralRequirement => "control.collateral.requirement"
  | .collateralMarginGet => "control.collateral.margin.get"
  | .collateralMarginSet => "control.collateral.margin.set"
  | .collateralBuffer => "control.collateral.buffer"
  | .mirrorBondStates => "control.mirror.bondStates"
  | .mirrorReconcile => "control.mirror.reconcile"
  | .profilePutBody => "control.profile.putBody"
  | .profileGetBody => "control.profile.getBody"
  | .pairingRequest => "pairing.request"
  | .pairingPoll => "pairing.poll"

/-- Every method. -/
def all : List ControlMethod :=
  [.status, .configGet, .configSetUpstream, .configSetMirrorAdvertiseUrls, .logSetLevel,
    .cacheGet, .cacheSetCap, .cacheClear, .hostedStoresList, .hostedStoresPin,
    .hostedStoresUnpin, .hostedStoresStatus, .capsuleFetch, .syncStatus, .syncTrigger,
    .updaterStatus, .updaterSetChannel, .updaterPause, .updaterResume, .updaterCheckNow,
    .pairingList, .pairingApprove, .pairingRevoke, .peerStatus, .peerCounts, .peersConnect,
    .peersDisconnect, .chiaPeersAdd, .chiaPeersList, .chiaPeersRemove, .subscribe, .unsubscribe,
    .listSubscriptions, .walletBalance, .walletCoins, .walletCoinById, .walletCoinSpend,
    .walletCoinsByParent, .walletArrivals, .walletPeak, .walletSyncStatus,
    .walletOperatorAddress, .walletBroadcast, .walletWatch, .walletUnwatch, .walletWatched,
    .walletReservationsHeld, .walletReservationsReserve, .walletReservationsRelease,
    .walletResetCoinDb, .spendsList, .collateralRequirement, .collateralMarginGet,
    .collateralMarginSet, .collateralBuffer, .mirrorBondStates, .mirrorReconcile,
    .profilePutBody, .profileGetBody, .pairingRequest, .pairingPoll]

/-- The method with the given wire name. -/
def fromName (name : String) : Option ControlMethod :=
  all.find? fun candidate => candidate.name == name

/-- Served without a control token: the chain reads, whose subject the caller names or which
name none, and the peer counts. -/
def isOpenRead : ControlMethod → Bool
  | .walletBalance
  | .walletCoins
  | .walletCoinById
  | .walletCoinSpend
  | .walletCoinsByParent
  | .walletPeak
  | .walletSyncStatus
  | .peerCounts => true
  | _ => false

/-- A call requires a control token. -/
def requiresAuth (method : ControlMethod) : Bool :=
  !method.isOpenRead && !(match method with
    | .pairingRequest
    | .pairingPoll => true
    | _ => false)

/-- Administers the pairing lifecycle. -/
def isPairingAdmin : ControlMethod → Bool
  | .pairingList
  | .pairingApprove
  | .pairingRevoke => true
  | _ => false

/-- A call requires the master token, since its effect outlives the token it was made
with. -/
def requiresMasterToken (method : ControlMethod) : Bool :=
  method.isPairingAdmin || match method with
    | .chiaPeersAdd
    | .chiaPeersRemove => true
    | _ => false

/-- How a node resolves the method. -/
def routing : ControlMethod → Routing
  | .peerStatus
  | .peerCounts
  | .peersConnect
  | .peersDisconnect
  | .subscribe
  | .unsubscribe
  | .listSubscriptions
  | .walletBalance
  | .walletCoins
  | .walletCoinById
  | .walletCoinSpend
  | .walletCoinsByParent
  | .walletArrivals
  | .walletPeak
  | .walletSyncStatus
  | .walletBroadcast
  | .walletWatch
  | .walletUnwatch
  | .walletWatched
  | .walletReservationsHeld
  | .walletReservationsReserve
  | .walletReservationsRelease
  | .walletResetCoinDb
  | .profilePutBody
  | .profileGetBody => .delegated
  | .pairingRequest
  | .pairingPoll => .openBootstrap
  | _ => .owned

theorem mem_all (method : ControlMethod) : method ∈ all := by
  cases method <;> decide

/-- No two methods share a wire name. -/
theorem name_nodup : (all.map name).Nodup := by decide +kernel

theorem fromName_eq_some_iff {wire : String} {method : ControlMethod} :
    fromName wire = some method ↔ method.name = wire :=
  Serde.find?_eq_some_iff name_nodup mem_all

@[simp] theorem fromName_name (method : ControlMethod) : fromName method.name = some method :=
  fromName_eq_some_iff.mpr rfl

theorem name_injective : Function.Injective name := by
  intro left right same
  have found := fromName_name left
  rw [same, fromName_name] at found
  exact (Option.some.inj found).symm

end ControlMethod

end ControlInterface
