import ControlInterface.Catalog.Effects

/-!
# The reference node

`MockNode`, the node that the catalog is tried on.  It keeps the enrolled keys, the
reservations and the safety margin, and works on these as a node does; every other method
answers from a fixture, whatever the state.  The fixtures are a parameter.
-/

namespace ControlInterface

open Serde ControlHandler

/-! ## State -/

/-- The margin of a node whose operator has set none. -/
def defaultSafetyMarginBp : UInt64 := 100

/-- What the node keeps: the enrolled keys, the margin, and the reservations with their
coins and the time they end. -/
structure MockState where
  enrolled : BTreeMap String Unit
  marginBp : UInt64
  reservations : BTreeMap String (List String × UInt64)

namespace MockState

def initial : MockState where
  enrolled := .empty
  marginBp := defaultSafetyMarginBp
  reservations := .empty

end MockState

namespace MockNode

/-- The time the node answers at. -/
def mockNowUnix : UInt64 := 1800000000

/-- The longest time the node reserves for. -/
def mockMaxTtlSecs : UInt64 := 600

/-- The time the node reserves for when the caller names none. -/
def mockDefaultTtlSecs : UInt64 := 300

/-! ## Enrolment -/

/-- The number of elements that a test accepts which changes the set it is made on, and the
set in the end. -/
def countWith {α σ : Type} (test : α → σ → Bool × σ) : List α → σ → Nat × σ
  | [], set => (0, set)
  | element :: rest, set =>
      let (accepted, next) := test element set
      let (count, last) := countWith test rest next
      (accepted.toNat + count, last)

/-- Insert a key, and tell whether it was absent. -/
def insert (key : String) (set : BTreeMap String Unit) : Bool × BTreeMap String Unit :=
  ((set.get? key).isNone, set.insert key ())

/-- Remove a key, and tell whether it was present. -/
def remove (key : String) (set : BTreeMap String Unit) : Bool × BTreeMap String Unit :=
  ((set.get? key).isSome, set.erase key)

def walletWatch (params : WalletWatchParams) : Answer (StateM MockState) WalletWatchResult :=
  modifyGet fun state =>
    let (added, enrolled) := countWith insert params.publicKeys state.enrolled
    (⟨.ofNat added, .ofNat enrolled.keys.length⟩, { state with enrolled })

def walletUnwatch (params : WalletUnwatchParams) : Answer (StateM MockState) WalletUnwatchResult :=
  modifyGet fun state =>
    let (removed, enrolled) := countWith remove params.publicKeys state.enrolled
    (⟨.ofNat removed, .ofNat enrolled.keys.length⟩, { state with enrolled })

def walletWatched : Answer (StateM MockState) WalletWatchedResult := do
  return ⟨(← get).enrolled.keys⟩

/-! ## Reservations -/

/-- The reservations whose time is not over. -/
def live (table : BTreeMap String (List String × UInt64)) : List (String × List String × UInt64) :=
  table.entries.filter fun entry => entry.2.2 > mockNowUnix

def walletReservationsHeld : Answer (StateM MockState) WalletReservationsHeldResult := do
  return {
    reserved := (live (← get).reservations).flatMap fun (id, coins, expires) =>
      coins.map fun coinId => ⟨coinId, id, expires⟩
    asOfUnix := mockNowUnix }

/-- The coins of the reservations whose time is not over. -/
def heldCoins (table : BTreeMap String (List String × UInt64)) : List String :=
  (live table).flatMap fun entry => entry.2.1

/-- The error for a coin that is reserved already. -/
def alreadyReserved (clash : String) : ControlError :=
  .of .walletCoinsReserved ("coin " ++ clash ++ " is already reserved by an in-flight spend")

/-- What the node grants on a table that has none of the coins. -/
def granted (table : BTreeMap String (List String × UInt64))
    (params : WalletReservationsReserveParams) : WalletReservationsReserveResult :=
  let ttlSecs := min (params.ttlSecs.getD mockDefaultTtlSecs) mockMaxTtlSecs
  { reservationId := "mock-res-" ++ toString (table.entries.length + 1)
    coinIds := params.coinIds
    expiresAtUnix := mockNowUnix + ttlSecs
    ttlSecs }

def walletReservationsReserve (params : WalletReservationsReserveParams) :
    Answer (StateM MockState) WalletReservationsReserveResult := do
  let params ← (SelfValidating.validated params : Except ControlError _)
  ExceptT.mk <| modifyGet fun state =>
    -- Every clash is found before anything is written.
    match params.coinIds.find? (heldCoins state.reservations).contains with
    | some clash => (.error (alreadyReserved clash), state)
    | none =>
        let result := granted state.reservations params
        (.ok result, { state with
          reservations := state.reservations.insert result.reservationId
            (result.coinIds, result.expiresAtUnix) })

/-- The answer to the release of what was stored under an id. -/
def released : Option (List String × UInt64) → WalletReservationsReleaseResult
  | some (coinIds, _) => ⟨true, coinIds⟩
  | none => ⟨false, []⟩

def walletReservationsRelease (params : WalletReservationsReleaseParams) :
    Answer (StateM MockState) WalletReservationsReleaseResult :=
  modifyGet fun state =>
    (released (state.reservations.get? params.reservationId),
      { state with reservations := state.reservations.erase params.reservationId })

/-! ## The coin database -/

def walletResetCoinDb (params : WalletResetCoinDbParams) :
    Answer (StateM MockState) WalletResetCoinDbResult :=
  if params.confirm then return ⟨3, 1⟩
  else throw (.of .invalidParams "control.wallet.resetCoinDb requires params.confirm = true")

/-! ## Collateral -/

def collateralMarginGet : Answer (StateM MockState) CollateralMarginResult := do
  return ⟨(← get).marginBp⟩

def collateralMarginSet (params : CollateralMarginSetParams) :
    Answer (StateM MockState) CollateralMarginResult :=
  modifyGet fun state => (⟨params.marginBp⟩, { state with marginBp := params.marginBp })

def collateralBuffer : Answer (StateM MockState) CollateralBufferResult := do
  return .known 7 1 .dangerouslyLow 32400 14050 12 1036 (← get).marginBp 3108 7468 4 1601806

/-! ## The node -/

/-- The node, with the answers of the methods that keep no state. -/
def node (fixtures : ControlHandler Id) : ControlHandler (StateM MockState) :=
  { ofServe fun H params => ExceptT.mk (StateT.lift (H.serve fixtures params).run) with
    walletWatch
    walletUnwatch
    walletWatched
    walletResetCoinDb
    walletReservationsHeld
    walletReservationsReserve
    walletReservationsRelease
    collateralMarginGet
    collateralMarginSet
    collateralBuffer }

/-! ## What calls leave alone -/

/-- What the node keeps. -/
inductive Component where
  | enrolled
  | marginBp
  | reservations
  deriving DecidableEq

/-- What a call of the handler method may change. -/
def component : HandlerMethod → Option Component
  | .bound .walletWatch | .bound .walletUnwatch => some .enrolled
  | .bound .collateralMarginSet => some .marginBp
  | .bound .walletReservationsReserve | .bound .walletReservationsRelease => some .reservations
  | _ => none

/-- The states differ in no component but the given one. -/
structure AgreeBut (changed : Option Component) (left right : MockState) : Prop where
  enrolled : changed ≠ some .enrolled → left.enrolled = right.enrolled
  marginBp : changed ≠ some .marginBp → left.marginBp = right.marginBp
  reservations : changed ≠ some .reservations → left.reservations = right.reservations

section Effects

variable (fixtures : ControlHandler Id) (state : MockState)

theorem agreeBut_self (changed : Option Component) : AgreeBut changed state state :=
  ⟨fun _ => rfl, fun _ => rfl, fun _ => rfl⟩

/-- A reservation is refused and nothing changes, or it is granted as a whole. -/
theorem run_reserve (params : WalletReservationsReserveParams) :
    (walletReservationsReserve params).run.run state =
      match (SelfValidating.validated params : Except ControlError _) with
      | .error error => (.error error, state)
      | .ok params =>
          match params.coinIds.find? (heldCoins state.reservations).contains with
          | some clash => (.error (alreadyReserved clash), state)
          | none =>
              let result := granted state.reservations params
              (.ok result, { state with
                reservations := state.reservations.insert result.reservationId
                  (result.coinIds, result.expiresAtUnix) }) := by
  rw [walletReservationsReserve]
  cases (SelfValidating.validated params : Except ControlError _) with
  | error error => rfl
  | ok params => rfl

theorem agreeBut_reserve (params : WalletReservationsReserveParams) :
    AgreeBut (some .reservations)
      (((walletReservationsReserve params).run.run state).2) state := by
  rw [run_reserve]
  split
  · exact agreeBut_self state _
  · split
    · exact agreeBut_self state _
    · exact ⟨fun _ => rfl, fun _ => rfl, nofun⟩

theorem effect_resetCoinDb (params : WalletResetCoinDbParams) :
    ((walletResetCoinDb params).run.run state).2 = state := by
  rw [walletResetCoinDb]
  split <;> rfl

/-- A call changes one component at most, the one that its handler method is about. -/
theorem effect_agreeBut (call : HandlerCall) :
    AgreeBut (component call.1) ((node fixtures).effect call state) state := by
  rcases call with ⟨H, params⟩
  cases H with
  | chiaPeersList => exact agreeBut_self state _
  | bound C =>
      cases C with
      | walletWatch | walletUnwatch => exact ⟨nofun, fun _ => rfl, fun _ => rfl⟩
      | collateralMarginSet => exact ⟨fun _ => rfl, nofun, fun _ => rfl⟩
      | walletReservationsReserve => exact agreeBut_reserve state params
      | walletReservationsRelease => exact ⟨fun _ => rfl, fun _ => rfl, nofun⟩
      | walletResetCoinDb =>
          have kept : (node fixtures).effect ⟨.bound .walletResetCoinDb, params⟩ state = state :=
            effect_resetCoinDb state params
          rw [kept]
          exact agreeBut_self state _
      | _ => exact agreeBut_self state _

end Effects

end MockNode

end ControlInterface
