import ControlInterface.Reference.Node

/-!
# The parts of the reference node

The node keeps the enrolled keys, the margin and the reservations apart: what a client sees
of one of them is what it would see if nobody asked for anything else.
-/

namespace ControlInterface

open Serde ControlHandler Unwinding

namespace MockNode

/-- What the answers of the handler method depend on. -/
def subject : HandlerMethod → Option Component
  | .bound .walletWatch | .bound .walletUnwatch | .bound .walletWatched => some .enrolled
  | .bound .collateralMarginGet | .bound .collateralMarginSet | .bound .collateralBuffer =>
      some .marginBp
  | .bound .walletReservationsHeld | .bound .walletReservationsReserve
  | .bound .walletReservationsRelease => some .reservations
  | _ => none

/-- The states have the component in common. -/
def Same : Component → MockState → MockState → Prop
  | .enrolled, left, right => left.enrolled = right.enrolled
  | .marginBp, left, right => left.marginBp = right.marginBp
  | .reservations, left, right => left.reservations = right.reservations

/-- The request comes to a call that is about the component. -/
def isAbout (env : Environment) (component : Component) (request : JsonRpcRequest) : Bool :=
  (callsOf env request).any fun call => decide (subject call.1 = some component)

theorem isAbout_of_ok {env : Environment} {component : Component} {request : JsonRpcRequest}
    {call : HandlerCall} (found : interpret env request = .ok call) :
    isAbout env component request = decide (subject call.1 = some component) := by
  rw [isAbout, callsOf, found]
  exact Bool.or_false _

section Calls

variable (env : Environment) (fixtures : ControlHandler Id) {component : Component}

theorem same_of_agreeBut {changed : Option Component} (other : changed ≠ some component)
    {left right : MockState} (agree : AgreeBut changed left right) : Same component left right := by
  cases component with
  | enrolled => exact agree.enrolled other
  | marginBp => exact agree.marginBp other
  | reservations => exact agree.reservations other

/-- A request to reserve depends on the reservations only. -/
theorem same_reserve (params : WalletReservationsReserveParams) {left right : MockState}
    (same : left.reservations = right.reservations) :
    let onLeft := (walletReservationsReserve params).run.run left
    let onRight := (walletReservationsReserve params).run.run right
    onLeft.1 = onRight.1 ∧ onLeft.2.reservations = onRight.2.reservations := by
  rw [run_reserve, run_reserve, same]
  cases (SelfValidating.validated params : Except ControlError _) with
  | error error => exact ⟨rfl, same⟩
  | ok checked =>
      cases search : checked.coinIds.find? (heldCoins right.reservations).contains with
      | some clash =>
          simp only [search]
          exact ⟨trivial, same⟩
      | none =>
          simp only [search, and_self]

/-- A call that is about a component depends on nothing else, and leads states that have it
in common to such states. -/
theorem same_effect (call : HandlerCall) (about : subject call.1 = some component)
    {left right : MockState} (same : Same component left right) :
    (node fixtures).answer call left = (node fixtures).answer call right ∧
      Same component ((node fixtures).effect call left) ((node fixtures).effect call right) := by
  rcases call with ⟨H, params⟩
  rcases left with ⟨enrolled, margin, reservations⟩
  rcases right with ⟨otherEnrolled, otherMargin, otherReservations⟩
  cases H with
  | chiaPeersList => cases about
  | bound C =>
      cases C with
      | walletWatch | walletUnwatch | walletWatched =>
          cases about
          obtain rfl : enrolled = otherEnrolled := same
          exact ⟨rfl, rfl⟩
      | collateralMarginGet | collateralMarginSet | collateralBuffer =>
          cases about
          obtain rfl : margin = otherMargin := same
          exact ⟨rfl, rfl⟩
      | walletReservationsHeld | walletReservationsRelease =>
          cases about
          obtain rfl : reservations = otherReservations := same
          exact ⟨rfl, rfl⟩
      | walletReservationsReserve =>
          cases about
          exact same_reserve params same
      | _ => cases about

/-- A call that is not about a component leaves it alone. -/
theorem same_of_other (call : HandlerCall) (other : subject call.1 ≠ some component)
    (state : MockState) : Same component ((node fixtures).effect call state) state := by
  apply same_of_agreeBut _ (effect_agreeBut fixtures state call)
  intro changed
  apply other
  rcases call with ⟨H, params⟩
  cases H with
  | chiaPeersList => cases changed
  | bound C =>
      cases C with
      | walletWatch | walletUnwatch | collateralMarginSet | walletReservationsReserve
      | walletReservationsRelease => exact changed
      | _ => cases changed

theorem Same.trans {left middle right : MockState} (first : Same component left middle)
    (second : Same component middle right) : Same component left right := by
  cases component <;> exact Eq.trans first second

/-- The requests about a component see no more of the state than that, and the others leave
it alone. -/
theorem unwinds (component : Component) :
    Unwinds (fun request => ((node fixtures).dispatch env request).run) (isAbout env component)
      (Same component) := by
  constructor
  case sees =>
    intro request left right about same
    rcases interpret_cases env request with ⟨error, refused⟩ | ⟨H, params, _, _, found⟩
    · rw [isAbout, callsOf, refused] at about
      cases about
    · have isSubject : subject H = some component := by
        rw [isAbout_of_ok found] at about
        exact of_decide_eq_true about
      rcases same_effect fixtures ⟨H, params⟩ isSubject same with ⟨answered, next⟩
      rw [run_dispatch _ found, run_dispatch _ found, answered]
      exact ⟨rfl, next⟩
  case hides =>
    intro request left right other same
    rcases interpret_cases env request with ⟨error, refused⟩ | ⟨H, params, _, _, found⟩
    · rw [dispatch_of_error _ refused]
      exact same
    · have isOther : subject H ≠ some component := by
        rw [isAbout_of_ok found] at other
        exact of_decide_eq_false other
      rw [run_dispatch _ found]
      exact (same_of_other fixtures ⟨H, params⟩ isOther left).trans same

/-- What clients see of the enrolled keys, of the margin or of the reservations is what they
would see if nobody asked for anything else: the responses to the requests about one of them
are those of a run without the other requests, and so is what it is in the end. -/
theorem components_independent (component : Component) (requests : List JsonRpcRequest)
    (start : MockState) :
    let whole := (serveAll env (node fixtures) requests).run start
    let alone := (serveAll env (node fixtures) (requests.filter (isAbout env component))).run start
    seen (isAbout env component) requests whole.1 = alone.1 ∧ Same component whole.2 alone.2 := by
  have itself : Same component start start := by
    cases component <;> rfl
  rw [serveAll_eq_run, serveAll_eq_run]
  exact (unwinds env fixtures component).seen_run requests itself

end Calls

end MockNode

end ControlInterface
