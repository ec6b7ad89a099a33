import ControlInterface.Params.Node

/-!
# Results of the node methods

The result types of the methods about the node itself: its status and
configuration, its cache and hosted stores, pairing, peers, subscriptions and
profile bodies.
-/

namespace ControlInterface

open Serde

/-! ## Status and configuration -/

/-- The cache, as a status reports it. -/
structure CacheView where
  capBytes : UInt64
  usedBytes : UInt64
  dir : String
  shared : Bool

instance : DeriveStruct CacheView where
  name := "CacheView"
  types := [UInt64, UInt64, String, Bool]
  fields := .plain "cap_bytes" <| .plain "used_bytes" <| .plain "dir" <| .plain "shared" .nil
  equiv := ⟨fun view => (view.capBytes, view.usedBytes, view.dir, view.shared, ()),
    fun (capBytes, usedBytes, dir, shared, ()) => ⟨capBytes, usedBytes, dir, shared⟩,
    fun _ => rfl, fun _ => rfl⟩

/-- Whether this node can sync whole stores. -/
structure SyncAvailability where
  available : Bool

instance : DeriveStruct SyncAvailability where
  name := "SyncAvailability"
  types := [Bool]
  fields := .plain "available" .nil
  equiv := ⟨fun sync => (sync.available, ()),
    fun (available, ()) => ⟨available⟩, fun _ => rfl, fun _ => rfl⟩

/-- The result of `control.status`. -/
structure StatusResult where
  running : Bool
  service : String
  version : String
  commit : String
  protocol : String
  uptimeSecs : UInt64
  addr : String
  upstream : String
  cache : CacheView
  hostedStoreCount : UInt64
  cachedCapsuleCount : UInt64
  pinnedStoreCount : UInt64
  sync : SyncAvailability

instance : DeriveStruct StatusResult where
  name := "StatusResult"
  types := [Bool, String, String, String, String, UInt64, String, String, CacheView, UInt64,
    UInt64, UInt64, SyncAvailability]
  fields := .plain "running" <| .plain "service" <| .plain "version" <| .plain "commit" <|
    .plain "protocol" <| .plain "uptime_secs" <| .plain "addr" <| .plain "upstream" <|
    .plain "cache" <| .plain "hosted_store_count" <| .plain "cached_capsule_count" <|
    .plain "pinned_store_count" <| .plain "sync" .nil
  equiv := ⟨fun result => (result.running, result.service, result.version, result.commit,
    result.protocol, result.uptimeSecs, result.addr, result.upstream, result.cache,
    result.hostedStoreCount, result.cachedCapsuleCount, result.pinnedStoreCount, result.sync, ()),
    fun (running, service, version, commit, protocol, uptimeSecs, addr, upstream, cache,
      hostedStoreCount, cachedCapsuleCount, pinnedStoreCount, sync, ()) =>
      ⟨running, service, version, commit, protocol, uptimeSecs, addr, upstream, cache,
        hostedStoreCount, cachedCapsuleCount, pinnedStoreCount, sync⟩, fun _ => rfl, fun _ => rfl⟩

/-- Why a mirror advertises what it advertises. -/
inductive MirrorAdvertiseState where
  | advertisingOverride
  | advertisingDerived
  | off
  | noPublicAddress
  | uncorroboratedAddress
  | noRelay
  deriving DecidableEq

instance : UnitEnum MirrorAdvertiseState where
  variants := [.advertisingOverride, .advertisingDerived, .off, .noPublicAddress,
    .uncorroboratedAddress, .noRelay]
  wire
    | .advertisingOverride => "advertising_override"
    | .advertisingDerived => "advertising_derived"
    | .off => "off"
    | .noPublicAddress => "no_public_address"
    | .uncorroboratedAddress => "uncorroborated_address"
    | .noRelay => "no_relay"

/-- What a mirror advertises. -/
structure MirrorAdvertiseView where
  urls : List String
  operatorOverride : Option (List String)
  state : MirrorAdvertiseState

instance : DeriveStruct MirrorAdvertiseView where
  name := "MirrorAdvertiseView"
  types := [List String, Option (List String), MirrorAdvertiseState]
  fields := .plain "urls" <| .plain "operator_override" <| .plain "state" .nil
  equiv := ⟨fun view => (view.urls, view.operatorOverride, view.state, ()),
    fun (urls, operatorOverride, state, ()) => ⟨urls, operatorOverride, state⟩,
    fun _ => rfl, fun _ => rfl⟩

/-- The result of `control.config.get`. -/
structure ConfigResult where
  addr : String
  port : String
  upstream : String
  upstreamOverride : Option String
  cacheDir : String
  cacheShared : Bool
  configPath : String
  syncAvailable : Bool
  mirrorAdvertise : Option MirrorAdvertiseView

instance : DeriveStruct ConfigResult where
  name := "ConfigResult"
  types := [String, String, String, Option String, String, Bool, String, Bool,
    Option MirrorAdvertiseView]
  fields := .plain "addr" <| .plain "port" <| .plain "upstream" <| .plain "upstream_override" <|
    .plain "cache_dir" <| .plain "cache_shared" <| .plain "config_path" <|
    .plain "sync_available" <| .plain "mirror_advertise" .nil
  equiv := ⟨fun result => (result.addr, result.port, result.upstream, result.upstreamOverride,
    result.cacheDir, result.cacheShared, result.configPath, result.syncAvailable,
    result.mirrorAdvertise, ()),
    fun (addr, port, upstream, upstreamOverride, cacheDir, cacheShared, configPath, syncAvailable,
      mirrorAdvertise, ()) =>
      ⟨addr, port, upstream, upstreamOverride, cacheDir, cacheShared, configPath, syncAvailable,
        mirrorAdvertise⟩, fun _ => rfl, fun _ => rfl⟩

/-- The result of `control.config.setUpstream`. -/
structure SetUpstreamResult where
  upstream : String
  requiresRestart : Bool

instance : DeriveStruct SetUpstreamResult where
  name := "SetUpstreamResult"
  types := [String, Bool]
  fields := .plain "upstream" <| .plain "requires_restart" .nil
  equiv := ⟨fun result => (result.upstream, result.requiresRestart, ()),
    fun (upstream, requiresRestart, ()) => ⟨upstream, requiresRestart⟩,
    fun _ => rfl, fun _ => rfl⟩

/-- The result of `control.config.setMirrorAdvertiseUrls`. -/
structure SetMirrorAdvertiseUrlsResult where
  mirrorAdvertise : MirrorAdvertiseView
  requiresRestart : Bool

instance : DeriveStruct SetMirrorAdvertiseUrlsResult where
  name := "SetMirrorAdvertiseUrlsResult"
  types := [MirrorAdvertiseView, Bool]
  fields := .plain "mirror_advertise" <| .plain "requires_restart" .nil
  equiv := ⟨fun result => (result.mirrorAdvertise, result.requiresRestart, ()),
    fun (mirrorAdvertise, requiresRestart, ()) => ⟨mirrorAdvertise, requiresRestart⟩,
    fun _ => rfl, fun _ => rfl⟩

/-- The result of `control.log.setLevel`. -/
structure SetLevelResult where
  filter : String

instance : DeriveStruct SetLevelResult where
  name := "SetLevelResult"
  types := [String]
  fields := .plain "filter" .nil
  equiv := ⟨fun result => (result.filter, ()),
    fun (filter, ()) => ⟨filter⟩, fun _ => rfl, fun _ => rfl⟩

/-! ## Cache and hosted stores -/

/-- The result of `control.cache.setCap`. -/
structure SetCapResult where
  capBytes : UInt64

instance : DeriveStruct SetCapResult where
  name := "SetCapResult"
  types := [UInt64]
  fields := .plain "cap_bytes" .nil
  equiv := ⟨fun result => (result.capBytes, ()),
    fun (capBytes, ()) => ⟨capBytes⟩, fun _ => rfl, fun _ => rfl⟩

/-- The result of `control.cache.clear`. -/
structure CacheClearResult where
  cleared : Bool

instance : DeriveStruct CacheClearResult where
  name := "CacheClearResult"
  types := [Bool]
  fields := .plain "cleared" .nil
  equiv := ⟨fun result => (result.cleared, ()),
    fun (cleared, ()) => ⟨cleared⟩, fun _ => rfl, fun _ => rfl⟩

/-- A capsule of a hosted store. -/
structure CapsuleEntry where
  capsule : String
  root : String
  sizeBytes : UInt64
  lastUsedUnixMs : UInt64

instance : DeriveStruct CapsuleEntry where
  name := "CapsuleEntry"
  types := [String, String, UInt64, UInt64]
  fields := .plain "capsule" <| .plain "root" <| .plain "size_bytes" <|
    .plain "last_used_unix_ms" .nil
  equiv := ⟨fun entry => (entry.capsule, entry.root, entry.sizeBytes, entry.lastUsedUnixMs, ()),
    fun (capsule, root, sizeBytes, lastUsedUnixMs, ()) =>
      ⟨capsule, root, sizeBytes, lastUsedUnixMs⟩, fun _ => rfl, fun _ => rfl⟩

/-- A store this node hosts. -/
structure HostedStore where
  storeId : String
  pinned : Bool
  capsuleCount : UInt64
  totalBytes : UInt64
  capsules : List CapsuleEntry

instance : DeriveStruct HostedStore where
  name := "HostedStore"
  types := [String, Bool, UInt64, UInt64, List CapsuleEntry]
  fields := .plain "store_id" <| .plain "pinned" <| .plain "capsule_count" <|
    .plain "total_bytes" <| .plain "capsules" .nil
  equiv := ⟨fun store => (store.storeId, store.pinned, store.capsuleCount, store.totalBytes,
    store.capsules, ()),
    fun (storeId, pinned, capsuleCount, totalBytes, capsules, ()) =>
      ⟨storeId, pinned, capsuleCount, totalBytes, capsules⟩, fun _ => rfl, fun _ => rfl⟩

/-- The result of `control.hostedStores.list`. -/
structure HostedStoresListResult where
  stores : List HostedStore

instance : DeriveStruct HostedStoresListResult where
  name := "HostedStoresListResult"
  types := [List HostedStore]
  fields := .plain "stores" .nil
  equiv := ⟨fun result => (result.stores, ()),
    fun (stores, ()) => ⟨stores⟩, fun _ => rfl, fun _ => rfl⟩

/-- The result of `control.hostedStores.pin`. -/
structure PinResult where
  storeId : String
  root : Option String
  pinned : Bool
  fetch : Json

instance : DeriveStruct PinResult where
  name := "PinResult"
  types := [String, Option String, Bool, Json]
  fields := .plain "store_id" <| .plain "root" <| .plain "pinned" <| .plain "fetch" .nil
  equiv := ⟨fun result => (result.storeId, result.root, result.pinned, result.fetch, ()),
    fun (storeId, root, pinned, fetch, ()) => ⟨storeId, root, pinned, fetch⟩,
    fun _ => rfl, fun _ => rfl⟩

/-- The result of `control.hostedStores.unpin`. -/
structure UnpinResult where
  storeId : String
  unpinned : Bool
  evictedCapsules : UInt64

instance : DeriveStruct UnpinResult where
  name := "UnpinResult"
  types := [String, Bool, UInt64]
  fields := .plain "store_id" <| .plain "unpinned" <| .plain "evicted_capsules" .nil
  equiv := ⟨fun result => (result.storeId, result.unpinned, result.evictedCapsules, ()),
    fun (storeId, unpinned, evictedCapsules, ()) => ⟨storeId, unpinned, evictedCapsules⟩,
    fun _ => rfl, fun _ => rfl⟩

/-- The result of `control.hostedStores.status`. -/
structure HostedStoreStatusResult where
  storeId : String
  pinned : Bool
  capsuleCount : UInt64
  totalBytes : UInt64
  capsules : List CapsuleEntry

instance : DeriveStruct HostedStoreStatusResult where
  name := "HostedStoreStatusResult"
  types := [String, Bool, UInt64, UInt64, List CapsuleEntry]
  fields := .plain "store_id" <| .plain "pinned" <| .plain "capsule_count" <|
    .plain "total_bytes" <| .plain "capsules" .nil
  equiv := ⟨fun result => (result.storeId, result.pinned, result.capsuleCount, result.totalBytes,
    result.capsules, ()),
    fun (storeId, pinned, capsuleCount, totalBytes, capsules, ()) =>
      ⟨storeId, pinned, capsuleCount, totalBytes, capsules⟩, fun _ => rfl, fun _ => rfl⟩

/-- The result of `control.capsule.fetch`. -/
structure CapsuleFetchResult where
  store : String
  root : String
  status : String

instance : DeriveStruct CapsuleFetchResult where
  name := "CapsuleFetchResult"
  types := [String, String, String]
  fields := .plain "store" <| .plain "root" <| .plain "status" .nil
  equiv := ⟨fun result => (result.store, result.root, result.status, ()),
    fun (store, root, status, ()) => ⟨store, root, status⟩, fun _ => rfl, fun _ => rfl⟩

/-- The result of `control.sync.status`. -/
structure SyncStatusResult where
  available : Bool
  method : String
  pinnedTotal : UInt64
  pinnedSynced : UInt64
  wholeStoreTriggerSupported : Bool

instance : DeriveStruct SyncStatusResult where
  name := "SyncStatusResult"
  types := [Bool, String, UInt64, UInt64, Bool]
  fields := .plain "available" <| .plain "method" <| .plain "pinned_total" <|
    .plain "pinned_synced" <| .plain "whole_store_trigger_supported" .nil
  equiv := ⟨fun result => (result.available, result.method, result.pinnedTotal,
    result.pinnedSynced, result.wholeStoreTriggerSupported, ()),
    fun (available, method, pinnedTotal, pinnedSynced, wholeStoreTriggerSupported, ()) =>
      ⟨available, method, pinnedTotal, pinnedSynced, wholeStoreTriggerSupported⟩,
    fun _ => rfl, fun _ => rfl⟩

/-- The result of `control.sync.trigger`. -/
structure SyncTriggerResult where
  storeId : String
  root : String
  status : String
  sizeBytes : UInt64
  servedRoot : String

instance : DeriveStruct SyncTriggerResult where
  name := "SyncTriggerResult"
  types := [String, String, String, UInt64, String]
  fields := .plain "store_id" <| .plain "root" <| .plain "status" <| .plain "size_bytes" <|
    .plain "served_root" .nil
  equiv := ⟨fun result => (result.storeId, result.root, result.status, result.sizeBytes,
    result.servedRoot, ()),
    fun (storeId, root, status, sizeBytes, servedRoot, ()) =>
      ⟨storeId, root, status, sizeBytes, servedRoot⟩, fun _ => rfl, fun _ => rfl⟩

/-! ## Pairing -/

/-- The result of `control.pairing.approve`. -/
structure PairingApproveResult where
  approved : Bool
  clientName : String
  tokenId : String

instance : DeriveStruct PairingApproveResult where
  name := "PairingApproveResult"
  types := [Bool, String, String]
  fields := .plain "approved" <| .plain "client_name" <| .plain "token_id" .nil
  equiv := ⟨fun result => (result.approved, result.clientName, result.tokenId, ()),
    fun (approved, clientName, tokenId, ()) => ⟨approved, clientName, tokenId⟩,
    fun _ => rfl, fun _ => rfl⟩

/-- The result of `control.pairing.revoke`. -/
structure PairingRevokeResult where
  revoked : Bool
  tokenId : String

instance : DeriveStruct PairingRevokeResult where
  name := "PairingRevokeResult"
  types := [Bool, String]
  fields := .plain "revoked" <| .plain "token_id" .nil
  equiv := ⟨fun result => (result.revoked, result.tokenId, ()),
    fun (revoked, tokenId, ()) => ⟨revoked, tokenId⟩, fun _ => rfl, fun _ => rfl⟩

/-- The result of `pairing.request`. -/
structure PairingRequestResult where
  pairingId : String
  pairingCode : String
  expiresMs : UInt64

instance : DeriveStruct PairingRequestResult where
  name := "PairingRequestResult"
  types := [String, String, UInt64]
  fields := .plain "pairing_id" <| .plain "pairing_code" <| .plain "expires_ms" .nil
  equiv := ⟨fun result => (result.pairingId, result.pairingCode, result.expiresMs, ()),
    fun (pairingId, pairingCode, expiresMs, ()) => ⟨pairingId, pairingCode, expiresMs⟩,
    fun _ => rfl, fun _ => rfl⟩

/-- The result of `pairing.poll`: the token, once the pairing is approved. -/
structure PairingPollResult where
  status : String
  token : Option String

instance : DeriveStruct PairingPollResult where
  name := "PairingPollResult"
  types := [String, Option String]
  fields := .plain "status" <| .skipNone "token" .nil
  equiv := ⟨fun result => (result.status, result.token, ()),
    fun (status, token, ()) => ⟨status, token⟩, fun _ => rfl, fun _ => rfl⟩

/-! ## Peers -/

/-- The result of `control.peerCounts`; a count is absent when it is not known. -/
structure PeerCountsResult where
  digPeerCount : Option UInt32
  chiaPeerCount : Option UInt32
  knownDigPeerCount : Option UInt32

instance : DeriveStruct PeerCountsResult where
  name := "PeerCountsResult"
  types := [Option UInt32, Option UInt32, Option UInt32]
  fields := .plain "dig_peer_count" <| .plain "chia_peer_count" <|
    .plain "known_dig_peer_count" .nil
  equiv := ⟨fun result => (result.digPeerCount, result.chiaPeerCount, result.knownDigPeerCount, ()),
    fun (digPeerCount, chiaPeerCount, knownDigPeerCount, ()) =>
      ⟨digPeerCount, chiaPeerCount, knownDigPeerCount⟩, fun _ => rfl, fun _ => rfl⟩

/-- The result of `control.peers.connect`. -/
structure PeersConnectResult where
  connected : Bool
  peerId : String

instance : DeriveStruct PeersConnectResult where
  name := "PeersConnectResult"
  types := [Bool, String]
  fields := .plain "connected" <| .plain "peer_id" .nil
  equiv := ⟨fun result => (result.connected, result.peerId, ()),
    fun (connected, peerId, ()) => ⟨connected, peerId⟩, fun _ => rfl, fun _ => rfl⟩

/-- The result of `control.peers.disconnect`. -/
structure PeersDisconnectResult where
  disconnected : Bool
  peerId : String

instance : DeriveStruct PeersDisconnectResult where
  name := "PeersDisconnectResult"
  types := [Bool, String]
  fields := .plain "disconnected" <| .plain "peer_id" .nil
  equiv := ⟨fun result => (result.disconnected, result.peerId, ()),
    fun (disconnected, peerId, ()) => ⟨disconnected, peerId⟩, fun _ => rfl, fun _ => rfl⟩

/-- A full node this node follows. -/
structure ChiaPeerEntry where
  ip : String
  port : UInt16
  peakHeight : Option UInt32
  userManaged : Bool
  banned : Bool

instance : DeriveStruct ChiaPeerEntry where
  name := "ChiaPeerEntry"
  types := [String, UInt16, Option UInt32, Bool, Bool]
  fields := .plain "ip" <| .plain "port" <| .plain "peak_height" <| .plain "user_managed" <|
    .plain "banned" .nil
  equiv := ⟨fun entry => (entry.ip, entry.port, entry.peakHeight, entry.userManaged, entry.banned,
    ()),
    fun (ip, port, peakHeight, userManaged, banned, ()) =>
      ⟨ip, port, peakHeight, userManaged, banned⟩, fun _ => rfl, fun _ => rfl⟩

/-- The result of `control.chiaPeers.list`. -/
structure ChiaPeersListResult where
  peers : List ChiaPeerEntry

instance : DeriveStruct ChiaPeersListResult where
  name := "ChiaPeersListResult"
  types := [List ChiaPeerEntry]
  fields := .plain "peers" .nil
  equiv := ⟨fun result => (result.peers, ()),
    fun (peers, ()) => ⟨peers⟩, fun _ => rfl, fun _ => rfl⟩

/-- The result of `control.chiaPeers.add`. -/
structure ChiaPeersAddResult where
  added : Bool
  ip : String
  port : UInt16
  corroborationBypassed : Bool
  notice : String

instance : DeriveStruct ChiaPeersAddResult where
  name := "ChiaPeersAddResult"
  types := [Bool, String, UInt16, Bool, String]
  fields := .plain "added" <| .plain "ip" <| .plain "port" <| .plain "corroboration_bypassed" <|
    .plain "notice" .nil
  equiv := ⟨fun result => (result.added, result.ip, result.port, result.corroborationBypassed,
    result.notice, ()),
    fun (added, ip, port, corroborationBypassed, notice, ()) =>
      ⟨added, ip, port, corroborationBypassed, notice⟩, fun _ => rfl, fun _ => rfl⟩

/-- Whether there was a peer to remove. -/
inductive ChiaPeerRemovalOutcome where
  | removed
  | noSuchPeer
  deriving DecidableEq

instance : UnitEnum ChiaPeerRemovalOutcome where
  variants := [.removed, .noSuchPeer]
  wire
    | .removed => "removed"
    | .noSuchPeer => "no_such_peer"

/-- The result of `control.chiaPeers.remove`. -/
structure ChiaPeersRemoveResult where
  outcome : ChiaPeerRemovalOutcome
  ip : String
  banned : Bool

instance : DeriveStruct ChiaPeersRemoveResult where
  name := "ChiaPeersRemoveResult"
  types := [ChiaPeerRemovalOutcome, String, Bool]
  fields := .plain "outcome" <| .plain "ip" <| .plain "banned" .nil
  equiv := ⟨fun result => (result.outcome, result.ip, result.banned, ()),
    fun (outcome, ip, banned, ()) => ⟨outcome, ip, banned⟩, fun _ => rfl, fun _ => rfl⟩

/-! ## Subscriptions -/

/-- The result of `control.subscribe`; an older node does not name the kind. -/
structure SubscribeResult where
  subscribed : Bool
  added : Bool
  storeId : String
  kind : SubscriptionKind

instance : DeriveStruct SubscribeResult where
  name := "SubscribeResult"
  types := [Bool, Bool, String, SubscriptionKind]
  fields := .plain "subscribed" <| .plain "added" <| .plain "store_id" <|
    .default "kind" .capsule .nil
  equiv := ⟨fun result => (result.subscribed, result.added, result.storeId, result.kind, ()),
    fun (subscribed, added, storeId, kind, ()) => ⟨subscribed, added, storeId, kind⟩,
    fun _ => rfl, fun _ => rfl⟩

/-- The result of `control.unsubscribe`. -/
structure UnsubscribeResult where
  subscribed : Bool
  removed : Bool
  storeId : String

instance : DeriveStruct UnsubscribeResult where
  name := "UnsubscribeResult"
  types := [Bool, Bool, String]
  fields := .plain "subscribed" <| .plain "removed" <| .plain "store_id" .nil
  equiv := ⟨fun result => (result.subscribed, result.removed, result.storeId, ()),
    fun (subscribed, removed, storeId, ()) => ⟨subscribed, removed, storeId⟩,
    fun _ => rfl, fun _ => rfl⟩

/-- The result of `control.listSubscriptions`. -/
structure ListSubscriptionsResult where
  subscriptions : List String
  count : UInt64

instance : DeriveStruct ListSubscriptionsResult where
  name := "ListSubscriptionsResult"
  types := [List String, UInt64]
  fields := .plain "subscriptions" <| .plain "count" .nil
  equiv := ⟨fun result => (result.subscriptions, result.count, ()),
    fun (subscriptions, count, ()) => ⟨subscriptions, count⟩, fun _ => rfl, fun _ => rfl⟩

/-! ## Profile bodies -/

/-- The result of `control.profile.putBody`. -/
structure ProfilePutBodyResult where
  stored : Bool
  storeId : String
  root : String
  bodyBytes : UInt64

instance : DeriveStruct ProfilePutBodyResult where
  name := "ProfilePutBodyResult"
  types := [Bool, String, String, UInt64]
  fields := .plain "stored" <| .plain "store_id" <| .plain "root" <| .plain "body_bytes" .nil
  equiv := ⟨fun result => (result.stored, result.storeId, result.root, result.bodyBytes, ()),
    fun (stored, storeId, root, bodyBytes, ()) => ⟨stored, storeId, root, bodyBytes⟩,
    fun _ => rfl, fun _ => rfl⟩

/-- The result of `control.profile.getBody`. -/
structure ProfileGetBodyResult where
  storeId : String
  root : String
  bodyB64 : Option String
  bodyBytes : UInt64

instance : DeriveStruct ProfileGetBodyResult where
  name := "ProfileGetBodyResult"
  types := [String, String, Option String, UInt64]
  fields := .plain "store_id" <| .plain "root" <| .plain "body_b64" <| .plain "body_bytes" .nil
  equiv := ⟨fun result => (result.storeId, result.root, result.bodyB64, result.bodyBytes, ()),
    fun (storeId, root, bodyB64, bodyBytes, ()) => ⟨storeId, root, bodyB64, bodyBytes⟩,
    fun _ => rfl, fun _ => rfl⟩

end ControlInterface
