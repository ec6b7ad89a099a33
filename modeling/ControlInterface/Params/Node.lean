import ControlInterface.Params.Basic

/-!
# Params of the node methods

The params types of the methods about the node itself: its status and
configuration, its cache and hosted stores, the updater, pairing, peers,
subscriptions and profile bodies.
-/

namespace ControlInterface

open Serde

/-! ## Status and configuration -/

/-- `control.status` takes no params. -/
structure StatusParams where

instance : EmptyStruct StatusParams := ⟨"StatusParams", ⟨⟩, fun _ => rfl⟩

/-- `control.config.get` takes no params. -/
structure ConfigGetParams where

instance : EmptyStruct ConfigGetParams := ⟨"ConfigGetParams", ⟨⟩, fun _ => rfl⟩

/-- `control.config.setUpstream`: the upstream to use. -/
structure SetUpstreamParams where
  upstream : String

instance : DeriveStruct SetUpstreamParams where
  name := "SetUpstreamParams"
  types := [String]
  fields := .plain "upstream" .nil
  equiv := ⟨fun params => (params.upstream, ()),
    fun (upstream, ()) => ⟨upstream⟩, fun _ => rfl, fun _ => rfl⟩

/-- `control.config.setMirrorAdvertiseUrls`: the urls to advertise, or nothing to
clear the override. -/
structure SetMirrorAdvertiseUrlsParams where
  urls : Option (List String)

instance : DeriveStruct SetMirrorAdvertiseUrlsParams where
  name := "SetMirrorAdvertiseUrlsParams"
  types := [Option (List String)]
  fields := .skipNone "urls" .nil
  equiv := ⟨fun params => (params.urls, ()),
    fun (urls, ()) => ⟨urls⟩, fun _ => rfl, fun _ => rfl⟩

/-- The url crate parses the text, and finds a host in it. -/
def isWellFormedAdvertiseUrl (env : Environment) (entry : String) : Bool :=
  match env.urlParse entry with
  | some host => host.isSome
  | none => false

namespace SetMirrorAdvertiseUrlsParams

/-- Refuse an empty list, and a list with an entry that is no url. -/
def validated (env : Environment) (params : SetMirrorAdvertiseUrlsParams) :
    Except ControlError SetMirrorAdvertiseUrlsParams :=
  match params.urls with
  | some [] => .error (invalid ("urls must be omitted/null to clear the override, or a NON-EMPTY "
      ++ "list to set one -- an explicit empty list is ambiguous between the two and is refused"))
  | some urls =>
      match urls.find? fun url => !isWellFormedAdvertiseUrl env url with
      | some bad => .error (invalid (env.formatter.debug bad
          ++ " is not a well-formed absolute URL (a scheme and a host are required)"))
      | none => .ok params
  | none => .ok params

/-- The urls are absent, or a list of one or more urls with a host. -/
def WellFormed (env : Environment) (params : SetMirrorAdvertiseUrlsParams) : Prop :=
  ∀ urls ∈ params.urls, urls ≠ [] ∧
    ∀ url ∈ urls, ∃ host, env.urlParse url = some (some host)

theorem isWellFormedAdvertiseUrl_iff {env : Environment} {entry : String} :
    isWellFormedAdvertiseUrl env entry = true ↔ ∃ host, env.urlParse entry = some (some host) := by
  unfold isWellFormedAdvertiseUrl
  split
  next host parsed => rw [parsed, Option.isSome_iff_exists]; simp
  next refused => simp [refused]

theorem validated_eq_ok_iff {env : Environment} {params result : SetMirrorAdvertiseUrlsParams} :
    params.validated env = .ok result ↔ result = params ∧ params.WellFormed env := by
  rcases params with ⟨urls⟩
  cases urls with
  | none => simp [validated, WellFormed, eq_comm]
  | some urls =>
      cases urls with
      | nil => simp [validated, WellFormed]
      | cons url rest =>
          simp only [validated, WellFormed, Option.mem_some_iff, forall_eq', ne_eq, reduceCtorEq,
            not_false_eq_true, true_and]
          cases found : (url :: rest).find? fun url => !isWellFormedAdvertiseUrl env url with
          | none =>
              have wellFormed :
                  ∀ entry ∈ url :: rest, ∃ host, env.urlParse entry = some (some host) :=
                fun entry member => isWellFormedAdvertiseUrl_iff.mp
                  (by simpa using List.find?_eq_none.mp found entry member)
              rw [Except.ok.injEq]
              exact ⟨fun same => ⟨same.symm, wellFormed⟩, fun both => both.1.symm⟩
          | some bad =>
              simp only [reduceCtorEq, false_iff, not_and, not_forall]
              refine fun _ => ⟨bad, List.mem_of_find?_eq_some found, fun wellFormed => ?_⟩
              have refused := List.find?_some found
              rw [isWellFormedAdvertiseUrl_iff.mpr wellFormed] at refused
              cases refused

theorem validated_idem {env : Environment} {params result : SetMirrorAdvertiseUrlsParams}
    (accepted : params.validated env = .ok result) : result.validated env = .ok result := by
  rcases validated_eq_ok_iff.mp accepted with ⟨rfl, _⟩
  exact accepted

theorem isRefusal_of_validated {env : Environment} {params : SetMirrorAdvertiseUrlsParams}
    {error : ControlError} (failed : params.validated env = .error error) : IsRefusal error := by
  unfold validated at failed
  split at failed
  next => exact ⟨_, (Except.error.inj failed).symm⟩
  next =>
    split at failed
    next => exact ⟨_, (Except.error.inj failed).symm⟩
    next => cases failed
  next => cases failed

end SetMirrorAdvertiseUrlsParams

/-- `control.log.setLevel`: the new log filter. -/
structure SetLevelParams where
  filter : String

instance : DeriveStruct SetLevelParams where
  name := "SetLevelParams"
  types := [String]
  fields := .plain "filter" .nil
  equiv := ⟨fun params => (params.filter, ()),
    fun (filter, ()) => ⟨filter⟩, fun _ => rfl, fun _ => rfl⟩

/-! ## Cache and hosted stores -/

/-- `control.cache.get` takes no params. -/
structure CacheGetParams where

instance : EmptyStruct CacheGetParams := ⟨"CacheGetParams", ⟨⟩, fun _ => rfl⟩

/-- `control.cache.setCap`: the new cap of the cache. -/
structure SetCapParams where
  capBytes : UInt64

instance : DeriveStruct SetCapParams where
  name := "SetCapParams"
  types := [UInt64]
  fields := .plain "cap_bytes" .nil
  equiv := ⟨fun params => (params.capBytes, ()),
    fun (capBytes, ()) => ⟨capBytes⟩, fun _ => rfl, fun _ => rfl⟩

/-- `control.cache.clear` takes no params. -/
structure CacheClearParams where

instance : EmptyStruct CacheClearParams := ⟨"CacheClearParams", ⟨⟩, fun _ => rfl⟩

/-- `control.hostedStores.list` takes no params. -/
structure HostedStoresListParams where

instance : EmptyStruct HostedStoresListParams := ⟨"HostedStoresListParams", ⟨⟩, fun _ => rfl⟩

/-- `control.hostedStores.pin`: the store to pin. -/
structure PinParams where
  store : String

instance : DeriveStruct PinParams where
  name := "PinParams"
  types := [String]
  fields := .plain "store" .nil
  equiv := ⟨fun params => (params.store, ()),
    fun (store, ()) => ⟨store⟩, fun _ => rfl, fun _ => rfl⟩

/-- `control.hostedStores.unpin`: the store to unpin. -/
structure UnpinParams where
  store : String

instance : DeriveStruct UnpinParams where
  name := "UnpinParams"
  types := [String]
  fields := .plain "store" .nil
  equiv := ⟨fun params => (params.store, ()),
    fun (store, ()) => ⟨store⟩, fun _ => rfl, fun _ => rfl⟩

/-- `control.hostedStores.status`: the store to report on. -/
structure HostedStoreStatusParams where
  store : String

instance : DeriveStruct HostedStoreStatusParams where
  name := "HostedStoreStatusParams"
  types := [String]
  fields := .plain "store" .nil
  equiv := ⟨fun params => (params.store, ()),
    fun (store, ()) => ⟨store⟩, fun _ => rfl, fun _ => rfl⟩

/-- `control.capsule.fetch`: the capsule to fetch. -/
structure CapsuleFetchParams where
  store : String
  root : String

instance : DeriveStruct CapsuleFetchParams where
  name := "CapsuleFetchParams"
  types := [String, String]
  fields := .plain "store" <| .plain "root" .nil
  equiv := ⟨fun params => (params.store, params.root, ()),
    fun (store, root, ()) => ⟨store, root⟩, fun _ => rfl, fun _ => rfl⟩

/-- `control.sync.status` takes no params. -/
structure SyncStatusParams where

instance : EmptyStruct SyncStatusParams := ⟨"SyncStatusParams", ⟨⟩, fun _ => rfl⟩

/-- `control.sync.trigger`: the store to sync. -/
structure SyncTriggerParams where
  store : String

instance : DeriveStruct SyncTriggerParams where
  name := "SyncTriggerParams"
  types := [String]
  fields := .plain "store" .nil
  equiv := ⟨fun params => (params.store, ()),
    fun (store, ()) => ⟨store⟩, fun _ => rfl, fun _ => rfl⟩

/-! ## Updater -/

/-- `control.updater.status` takes no params. -/
structure UpdaterStatusParams where

instance : EmptyStruct UpdaterStatusParams := ⟨"UpdaterStatusParams", ⟨⟩, fun _ => rfl⟩

/-- `control.updater.setChannel`: the channel to follow. -/
structure SetChannelParams where
  channel : String

instance : DeriveStruct SetChannelParams where
  name := "SetChannelParams"
  types := [String]
  fields := .plain "channel" .nil
  equiv := ⟨fun params => (params.channel, ()),
    fun (channel, ()) => ⟨channel⟩, fun _ => rfl, fun _ => rfl⟩

/-- `control.updater.pause`: when to resume, if at a given time. -/
structure PauseParams where
  untilTime : Option UInt64

instance : DeriveStruct PauseParams where
  name := "PauseParams"
  types := [Option UInt64]
  fields := .skipNone "until" .nil
  equiv := ⟨fun params => (params.untilTime, ()),
    fun (untilTime, ()) => ⟨untilTime⟩, fun _ => rfl, fun _ => rfl⟩

/-- `control.updater.resume` takes no params. -/
structure UpdaterResumeParams where

instance : EmptyStruct UpdaterResumeParams := ⟨"UpdaterResumeParams", ⟨⟩, fun _ => rfl⟩

/-- `control.updater.checkNow` takes no params. -/
structure UpdaterCheckNowParams where

instance : EmptyStruct UpdaterCheckNowParams := ⟨"UpdaterCheckNowParams", ⟨⟩, fun _ => rfl⟩

/-! ## Pairing -/

/-- `control.pairing.list` takes no params. -/
structure PairingListParams where

instance : EmptyStruct PairingListParams := ⟨"PairingListParams", ⟨⟩, fun _ => rfl⟩

/-- `control.pairing.approve`: the pairing to approve. -/
structure ApproveParams where
  pairingId : String

instance : DeriveStruct ApproveParams where
  name := "ApproveParams"
  types := [String]
  fields := .plain "pairing_id" .nil
  equiv := ⟨fun params => (params.pairingId, ()),
    fun (pairingId, ()) => ⟨pairingId⟩, fun _ => rfl, fun _ => rfl⟩

/-- `control.pairing.revoke`: the token to revoke. -/
structure RevokeParams where
  tokenId : String

instance : DeriveStruct RevokeParams where
  name := "RevokeParams"
  types := [String]
  fields := .plain "token_id" .nil
  equiv := ⟨fun params => (params.tokenId, ()),
    fun (tokenId, ()) => ⟨tokenId⟩, fun _ => rfl, fun _ => rfl⟩

/-- `pairing.request`: the name of the client that asks. -/
structure RequestParams where
  clientName : String

instance : DeriveStruct RequestParams where
  name := "RequestParams"
  types := [String]
  fields := .plain "client_name" .nil
  equiv := ⟨fun params => (params.clientName, ()),
    fun (clientName, ()) => ⟨clientName⟩, fun _ => rfl, fun _ => rfl⟩

/-- `pairing.poll`: the pairing to ask about. -/
structure PollParams where
  pairingId : String

instance : DeriveStruct PollParams where
  name := "PollParams"
  types := [String]
  fields := .plain "pairing_id" .nil
  equiv := ⟨fun params => (params.pairingId, ()),
    fun (pairingId, ()) => ⟨pairingId⟩, fun _ => rfl, fun _ => rfl⟩

/-! ## Peers -/

/-- `control.peerStatus` takes no params. -/
structure PeerStatusParams where

instance : EmptyStruct PeerStatusParams := ⟨"PeerStatusParams", ⟨⟩, fun _ => rfl⟩

/-- `control.peerCounts` takes no params. -/
structure PeerCountsParams where

instance : EmptyStruct PeerCountsParams := ⟨"PeerCountsParams", ⟨⟩, fun _ => rfl⟩

/-- `control.peers.connect`: the peer to connect to. -/
structure PeersConnectParams where
  peer : String

instance : DeriveStruct PeersConnectParams where
  name := "PeersConnectParams"
  types := [String]
  fields := .plain "peer" .nil
  equiv := ⟨fun params => (params.peer, ()),
    fun (peer, ()) => ⟨peer⟩, fun _ => rfl, fun _ => rfl⟩

/-- `control.peers.disconnect`: the peer to drop. -/
structure PeersDisconnectParams where
  peer : String

instance : DeriveStruct PeersDisconnectParams where
  name := "PeersDisconnectParams"
  types := [String]
  fields := .plain "peer" .nil
  equiv := ⟨fun params => (params.peer, ()),
    fun (peer, ()) => ⟨peer⟩, fun _ => rfl, fun _ => rfl⟩

/-- `control.chiaPeers.add`: the full node to trust. -/
structure ChiaPeersAddParams where
  ip : String

instance : DeriveStruct ChiaPeersAddParams where
  name := "ChiaPeersAddParams"
  types := [String]
  fields := .plain "ip" .nil
  equiv := ⟨fun params => (params.ip, ()),
    fun (ip, ()) => ⟨ip⟩, fun _ => rfl, fun _ => rfl⟩

/-- `control.chiaPeers.remove`: the full node to forget, and whether to ban it. -/
structure ChiaPeersRemoveParams where
  ip : String
  ban : Bool

instance : DeriveStruct ChiaPeersRemoveParams where
  name := "ChiaPeersRemoveParams"
  types := [String, Bool]
  fields := .plain "ip" <| .default "ban" false .nil
  equiv := ⟨fun params => (params.ip, params.ban, ()),
    fun (ip, ban, ()) => ⟨ip, ban⟩, fun _ => rfl, fun _ => rfl⟩

/-! ## Subscriptions -/

/-- What a subscription follows. -/
inductive SubscriptionKind where
  | capsule
  | profile
  deriving DecidableEq

instance : UnitEnum SubscriptionKind where
  variants := [.capsule, .profile]
  wire
    | .capsule => "capsule"
    | .profile => "profile"

/-- `control.subscribe`: the store to follow, as a capsule unless told otherwise. -/
structure SubscribeParams where
  storeId : String
  kind : SubscriptionKind

instance : DeriveStruct SubscribeParams where
  name := "SubscribeParams"
  types := [String, SubscriptionKind]
  fields := .plain "store_id" <| .default "kind" .capsule .nil
  equiv := ⟨fun params => (params.storeId, params.kind, ()),
    fun (storeId, kind, ()) => ⟨storeId, kind⟩, fun _ => rfl, fun _ => rfl⟩

/-- `control.unsubscribe`: the store to follow no more. -/
structure UnsubscribeParams where
  storeId : String

instance : DeriveStruct UnsubscribeParams where
  name := "UnsubscribeParams"
  types := [String]
  fields := .plain "store_id" .nil
  equiv := ⟨fun params => (params.storeId, ()),
    fun (storeId, ()) => ⟨storeId⟩, fun _ => rfl, fun _ => rfl⟩

/-- `control.listSubscriptions` takes no params. -/
structure ListSubscriptionsParams where

instance : EmptyStruct ListSubscriptionsParams := ⟨"ListSubscriptionsParams", ⟨⟩, fun _ => rfl⟩

/-! ## Profile bodies -/

/-- `control.profile.putBody`: a body, and the root it is claimed to have. -/
structure ProfilePutBodyParams where
  storeId : String
  root : String
  bodyB64 : String

instance : DeriveStruct ProfilePutBodyParams where
  name := "ProfilePutBodyParams"
  types := [String, String, String]
  fields := .plain "store_id" <| .plain "root" <| .plain "body_b64" .nil
  equiv := ⟨fun params => (params.storeId, params.root, params.bodyB64, ()),
    fun (storeId, root, bodyB64, ()) => ⟨storeId, root, bodyB64⟩, fun _ => rfl, fun _ => rfl⟩

/-- `control.profile.getBody`: the body to return. -/
structure ProfileGetBodyParams where
  storeId : String
  root : String

instance : DeriveStruct ProfileGetBodyParams where
  name := "ProfileGetBodyParams"
  types := [String, String]
  fields := .plain "store_id" <| .plain "root" .nil
  equiv := ⟨fun params => (params.storeId, params.root, ()),
    fun (storeId, root, ()) => ⟨storeId, root⟩, fun _ => rfl, fun _ => rfl⟩

end ControlInterface
