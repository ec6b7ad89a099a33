import ControlInterface.Catalog.Routing
import ControlInterface.Serde.Layout

/-!
# Params that are not an object

The contract has params be an object.  The methods that decode their params refuse every
other value without a call, but for one kind: a sequence that gives the fields by position.
-/

namespace ControlInterface

open Serde ControlHandler

/-! ## The order of the fields -/

namespace CallType

/-- The fields of the params in declaration order, each with whether a sequence may end
before it, for the methods that decode params. -/
def layout : CallType → Option Layout
  | .setUpstream => some [("upstream", false)]
  | .setMirrorAdvertiseUrls => some [("urls", true)]
  | .setLevel => some [("filter", false)]
  | .setCap => some [("cap_bytes", false)]
  | .pin | .unpin | .hostedStoreStatus | .syncTrigger => some [("store", false)]
  | .capsuleFetch => some [("store", false), ("root", false)]
  | .setChannel => some [("channel", false)]
  | .pause => some [("until", true)]
  | .approve | .poll => some [("pairing_id", false)]
  | .revoke => some [("token_id", false)]
  | .request => some [("client_name", false)]
  | .peersConnect | .peersDisconnect => some [("peer", false)]
  | .chiaPeersAdd => some [("ip", false)]
  | .chiaPeersRemove => some [("ip", false), ("ban", true)]
  | .subscribe => some [("store_id", false), ("kind", true)]
  | .unsubscribe => some [("store_id", false)]
  | .walletBalance => some [("address", false), ("asset", false)]
  | .walletCoins =>
      some [("address", false), ("asset", false), ("after_coin_id", true), ("limit", true)]
  | .walletCoinById | .walletCoinSpend => some [("coin_id", false)]
  | .walletCoinsByParent =>
      some [("parent_coin_id", false), ("after_coin_id", true), ("limit", true)]
  | .walletArrivals => some [("after_seq", true), ("limit", true)]
  | .walletBroadcast => some [("signed_bundle_hex", false)]
  | .walletWatch | .walletUnwatch => some [("public_keys", false)]
  | .walletReservationsReserve => some [("coin_ids", false), ("ttl_secs", true)]
  | .walletReservationsRelease => some [("reservation_id", false)]
  | .walletResetCoinDb => some [("confirm", true)]
  | .spendsList =>
      some [("since_ms", true), ("until_ms", true), ("store_id", true), ("kind", true),
        ("status", true), ("after_id", true), ("limit", true)]
  | .collateralMarginSet => some [("margin_bp", false)]
  | .mirrorBondStates => some [("after", true), ("limit", true)]
  | .mirrorReconcile => some [("dry_run", true)]
  | .profilePutBody => some [("store_id", false), ("root", false), ("body_b64", false)]
  | .profileGetBody => some [("store_id", false), ("root", false)]
  | _ => none

end CallType

section Ways

variable {env : Environment} {P : Type} {layout : Layout}

theorem positional_decoded {_ : DeriveStruct P} (laid : (DeStruct.fields (S := P)).Laid layout) :
    Positional layout (NodeParams.decoded env P).accept :=
  (DeriveStruct.positional laid).of_iff fun _ _ => decode_eq_ok_iff

theorem positional_selfValidating {_ : SelfValidating P}
    (laid : (ShadowStruct.de (S := P)).Laid layout) :
    Positional layout (NodeParams.selfValidating env P).accept :=
  ((ShadowStruct.positional laid).of_iff fun _ _ => decode_eq_ok_iff).bind SelfValidating.validated

end Ways

/-- The methods that decode params take sequences in the order of their fields. -/
theorem CallType.positional (env : Environment) {C : CallType} {layout : Layout}
    (decodes : C.layout = some layout) : Positional layout (C.accept env) := by
  cases C with
  | setUpstream | setLevel | setCap | pin | unpin | hostedStoreStatus | syncTrigger | setChannel |
    approve | poll | revoke | request | peersConnect | peersDisconnect | chiaPeersAdd |
    unsubscribe | walletBroadcast | walletReservationsRelease =>
      cases decodes
      exact positional_decoded (.plain .nil)
  | capsuleFetch | walletBalance | profileGetBody =>
      cases decodes
      exact positional_decoded (.plain <| .plain .nil)
  | profilePutBody =>
      cases decodes
      exact positional_decoded (.plain <| .plain <| .plain .nil)
  | pause | walletResetCoinDb | mirrorReconcile =>
      cases decodes
      exact positional_decoded (.default .nil)
  | chiaPeersRemove | subscribe =>
      cases decodes
      exact positional_decoded (.plain <| .default .nil)
  | walletArrivals =>
      cases decodes
      exact positional_decoded (.default <| .default .nil)
  | setMirrorAdvertiseUrls =>
      cases decodes
      exact (positional_decoded (P := SetMirrorAdvertiseUrlsParams) (.default .nil)).bind _
  | collateralMarginSet =>
      cases decodes
      exact (positional_decoded (P := CollateralMarginSetParams) (.plain .nil)).bind _
  | walletCoinById | walletCoinSpend | walletWatch | walletUnwatch =>
      cases decodes
      exact positional_selfValidating (.plain .nil)
  | walletCoins =>
      cases decodes
      exact positional_selfValidating (.plain <| .plain <| .default <| .default .nil)
  | walletCoinsByParent =>
      cases decodes
      exact positional_selfValidating (.plain <| .default <| .default .nil)
  | walletReservationsReserve =>
      cases decodes
      exact positional_selfValidating (.plain <| .default .nil)
  | mirrorBondStates =>
      cases decodes
      exact positional_selfValidating (.default <| .default .nil)
  | spendsList =>
      cases decodes
      exact positional_selfValidating
        (.default <| .default <| .default <| .default <| .default <| .default <| .default .nil)
  | _ => cases decodes

/-! ## Requests -/

/-- Whatever the handler, the request is answered with an invalid-params error and no handler
method is called. -/
def RefusedUncalled (env : Environment) (request : JsonRpcRequest) : Prop :=
  ∃ error, IsRefusal error ∧
    ∀ (m : Type → Type) [Monad m] [LawfulMonad m] (handler : ControlHandler m),
      handler.dispatch env request = pure (.failure request.id error) ∧
        recordedRun env handler request = pure (.failure request.id error, [])

/-- Params that give the fields of the call type by position: the object that names the
elements is accepted, and a sequence may end where this one does. -/
def GivenByPosition (env : Environment) (C : CallType) (layout : Layout) (params : Json) : Prop :=
  ∃ elements, params = .array elements ∧ layout.Covers elements.length ∧
    ∃ accepted, C.accept env (.object (layout.named elements)) = .ok accepted

section

variable {env : Environment} {request : JsonRpcRequest} {C : CallType} {layout : Layout}

/-- A request is refused without a call exactly when its params are not accepted. -/
theorem refusedUncalled_iff_accept (named : C.method.name = request.method) :
    RefusedUncalled env request ↔ ∀ params, C.accept env request.params ≠ .ok params := by
  constructor
  · intro refused params accepted
    rcases refused with ⟨error, _, every⟩
    have run := recordedRun_accepted (H := .bound C) env idleNode request named accepted
    have same := congrArg Prod.snd (run.symm.trans (every Id idleNode).2)
    cases same
  · intro never
    cases outcome : C.accept env request.params with
    | ok params => exact absurd outcome (never params)
    | error error =>
        refine ⟨error, (C.binding.node env).isRefusal outcome, ?_⟩
        intro m _ _ handler
        exact ⟨dispatch_refused (H := .bound C) env handler request named outcome,
          recordedRun_refused (H := .bound C) env handler request named outcome⟩

/-- Params that are no object are refused without a call, unless they give the fields by
position. -/
theorem refusedUncalled_iff (decodes : C.layout = some layout)
    (named : C.method.name = request.method) (shape : ∀ map, request.params ≠ .object map) :
    RefusedUncalled env request ↔ ¬GivenByPosition env C layout request.params := by
  have positional := C.positional env decodes
  rw [refusedUncalled_iff_accept named]
  constructor
  · intro never given
    rcases given with ⟨elements, same, covers, params, accepted⟩
    refine never params ?_
    rw [same]
    exact positional.array.mpr ⟨covers, accepted⟩
  · intro apart params accepted
    rcases positional.other accepted with ⟨map, same⟩ | ⟨elements, same⟩
    · exact shape map same
    · rw [same] at accepted
      rcases positional.array.mp accepted with ⟨covers, named⟩
      exact apart ⟨elements, same, covers, params, named⟩

/-- A request to clear the coin database, with a sequence for its params. -/
def resetByPosition : JsonRpcRequest :=
  ⟨"2.0", .number 1, "control.wallet.resetCoinDb", .array [.bool true]⟩

theorem refusedUncalled_resetByPosition :
    RefusedUncalled plainText resetByPosition ↔
      ¬GivenByPosition plainText .walletResetCoinDb [("confirm", true)] resetByPosition.params :=
  refusedUncalled_iff rfl rfl nofun

/-- It is not refused: the handler method is called, with the confirmation. -/
theorem resetByPosition_called :
    (∀ map, resetByPosition.params ≠ .object map) ∧
      recordedRun plainText idleNode resetByPosition =
        (fun outcome => (respond resetByPosition.id outcome,
          [⟨.bound .walletResetCoinDb, (⟨true⟩ : WalletResetCoinDbParams)⟩])) <$>
          (idleNode.walletResetCoinDb ⟨true⟩).run := by
  refine ⟨nofun, ?_⟩
  exact recordedRun_accepted (H := .bound .walletResetCoinDb) plainText idleNode resetByPosition
    rfl rfl

end

end ControlInterface
