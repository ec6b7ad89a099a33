import ControlInterface.Catalog.CallType

/-!
# What the dispatcher does

The sixty-one arms of the dispatcher do one thing: decode and validate the params,
call the handler method that implements the method, encode its result.
-/

namespace ControlInterface

open Serde

namespace ControlHandler

variable {m : Type → Type} [Monad m]

/-! ## Checks before effects -/

theorem lift_ok {α : Type} (value : α) :
    (liftM (.ok value : Except ControlError α) : Answer m α) = pure value := rfl

theorem lift_error {α : Type} (error : ControlError) :
    (liftM (.error error : Except ControlError α) : Answer m α) = throw error := rfl

variable [LawfulMonad m]

theorem lift_bind_of_ok {α β : Type} {check : Except ControlError α} {value : α}
    (passed : check = .ok value) (answer : α → Answer m β) :
    ((liftM check : Answer m α) >>= answer) = answer value := by
  rw [passed, lift_ok, pure_bind]

/-- A check in two steps, with the effects of the node after it. -/
theorem lift_bind_bind {α β γ : Type} (check : Except ControlError α)
    (next : α → Except ControlError β) (answer : β → Answer m γ) :
    ((liftM (check >>= next) : Answer m β) >>= answer) =
      (liftM check : Answer m α) >>= fun value => (liftM (next value) : Answer m β) >>= answer := by
  cases check with
  | ok value => rw [ok_bind, lift_ok, pure_bind]
  | error error =>
      apply ExceptT.ext
      simp [lift_error]

/-- JSON is encoded as it stands. -/
theorem bind_encode (answer : Answer m Json) : answer >>= encode = answer := bind_pure answer

theorem bind_bind_encode {α : Type} (check : Except ControlError α) (answer : α → Answer m Json) :
    ((liftM check : Answer m α) >>= fun value => answer value >>= encode) =
      (liftM check : Answer m α) >>= answer := by
  simp only [bind_encode]

/-! ## One arm for all methods -/

variable (env : Environment) (handler : ControlHandler m)

/-- Serve a request with a handler method. -/
def serveJson (H : HandlerMethod) (params : Json) : Answer m Json := do
  let params ← H.accept env params
  encode (← H.serve handler params)

/-- Every arm of the dispatcher decodes and validates the params, calls the handler
method of its own method, and encodes the result.  The arms differ in what they
leave out: decoding where there are no params, validation where decoding has done
it, and encoding where the result is JSON already. -/
theorem dispatchMethod_eq (H : HandlerMethod) (params : Json) :
    handler.dispatchMethod env H.method params = handler.serveJson env H params := by
  rw [serveJson]
  cases H with
  | chiaPeersList =>
      refine Eq.trans ?_ (lift_bind_of_ok rfl _).symm
      rfl
  | bound C =>
      cases C with
      | status | configGet | cacheGet | cacheClear | hostedStoresList | syncStatus |
        listSubscriptions | walletPeak | walletOperatorAddress | peerCounts | walletSyncStatus |
        walletWatched | walletReservationsHeld | collateralRequirement | collateralMarginGet |
        collateralBuffer =>
          refine Eq.trans ?_ (lift_bind_of_ok rfl _).symm
          rfl
      | updaterStatus | updaterResume | updaterCheckNow | pairingList | peerStatus =>
          refine Eq.trans ?_ (lift_bind_of_ok rfl _).symm
          exact (bind_encode _).symm
      | setUpstream | setLevel | setCap | pin | unpin | hostedStoreStatus | capsuleFetch |
        syncTrigger | approve | revoke | peersConnect | peersDisconnect | chiaPeersAdd |
        chiaPeersRemove | subscribe | unsubscribe | walletBalance | walletArrivals |
        walletBroadcast | walletReservationsRelease | walletResetCoinDb | request | poll |
        profilePutBody | profileGetBody | mirrorReconcile =>
          rfl
      | setChannel | pause =>
          refine Eq.trans ?_ (bind_bind_encode _ _).symm
          rfl
      | setMirrorAdvertiseUrls | collateralMarginSet =>
          exact (lift_bind_bind (decode env params) _ _).symm
      | walletCoinById | walletCoinSpend | walletCoinsByParent | walletWatch | walletUnwatch |
        spendsList | mirrorBondStates =>
          exact (lift_bind_bind (decode env params) _ _).symm
      | walletCoins | walletReservationsReserve =>
          exact congrArg (liftM · >>= _) (SelfValidating.decode_bind_validated params).symm

/-! ## Whole requests -/

/-- The response to a request whose handler method had the given outcome. -/
def respond {R : Type} [Serialize R] (id : RequestId) : Except ControlError R → JsonRpcResponse
  | .ok result => .success id (toValue result)
  | .error error => .failure id error

variable (request : JsonRpcRequest)

/-- The error for a method that is not in the catalog. -/
def unknownMethod (method : String) : ControlError :=
  .of .methodNotFound ("unknown control method: " ++ method)

/-- The name is not one of the catalog. -/
def Uncatalogued (name : String) : Prop := ∀ method : ControlMethod, method.name ≠ name

theorem fromName_eq_none {name : String} (uncatalogued : Uncatalogued name) :
    ControlMethod.fromName name = none := by
  rw [Option.eq_none_iff_forall_ne_some]
  intro method found
  exact uncatalogued method (ControlMethod.fromName_eq_some_iff.mp found)

/-- A name of the catalog is that of the method some handler method implements. -/
theorem exists_handlerMethod {name : String} (catalogued : ¬Uncatalogued name) :
    ∃ H : HandlerMethod, H.method.name = name := by
  rcases not_forall_not.mp catalogued with ⟨method, named⟩
  exact ⟨.ofMethod method, (HandlerMethod.method_ofMethod method).symm ▸ named⟩

omit [LawfulMonad m] in
theorem dispatch_uncatalogued (uncatalogued : Uncatalogued request.method) :
    handler.dispatch env request = pure (.failure request.id (unknownMethod request.method)) := by
  rw [dispatch, fromName_eq_none uncatalogued]
  rfl

section Catalogued

variable {H : HandlerMethod} (named : H.method.name = request.method)
include named

theorem dispatch_catalogued :
    handler.dispatch env request =
      (handler.serveJson env H request.params).run >>= fun outcome => match outcome with
        | .ok result => return .success request.id result
        | .error error => return .failure request.id error := by
  rw [dispatch, ← named, ControlMethod.fromName_name]
  exact congrArg (fun answer => ExceptT.run answer >>= _)
    (dispatchMethod_eq env handler H request.params)

theorem dispatch_refused {error : ControlError}
    (refused : H.accept env request.params = .error error) :
    handler.dispatch env request = pure (.failure request.id error) := by
  rw [dispatch_catalogued env handler request named, serveJson, refused, lift_error]
  simp

theorem dispatch_accepted {params : H.Params}
    (accepted : H.accept env request.params = .ok params) :
    handler.dispatch env request = respond request.id <$> (H.serve handler params).run := by
  rw [dispatch_catalogued env handler request named, serveJson, lift_bind_of_ok accepted,
    ExceptT.run_bind, bind_assoc, map_eq_pure_bind]
  apply bind_congr
  intro outcome
  cases outcome with
  | ok result => exact pure_bind (Except.ok (toValue result)) _
  | error error => exact pure_bind (Except.error error) _

end Catalogued

/-! ## Recording the calls -/

/-- The handler that does as another one, and writes down each call before it makes it. -/
def recorded (handler : ControlHandler m) : ControlHandler (StateT (List HandlerCall) m) :=
  ofServe fun H params => ExceptT.mk do
    modify (· ++ [⟨H, params⟩])
    StateT.lift (H.serve handler params).run

theorem run_serve_recorded {H : HandlerMethod} (params : H.Params) (calls : List HandlerCall) :
    ((H.serve (recorded handler) params).run).run calls =
      (fun outcome => (outcome, calls ++ [⟨H, params⟩])) <$> (H.serve handler params).run := by
  rw [recorded, serve_ofServe]
  simp

end ControlHandler

end ControlInterface
