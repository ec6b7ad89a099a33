import ControlInterface.Reference.Enrolment
import ControlInterface.Reference.Reservations

/-!
# Requests that are delivered again

A client that gets no response may send its request again, and the node cannot tell.  Every
request may be repeated so, but one: a reservation that holds nothing, of no coins or for no
time, is made anew each time it is asked for.
-/

namespace ControlInterface

open Serde ControlHandler Unwinding Holds

namespace MockNode

/-- The call asks for a reservation that would hold nothing. -/
def Hollow : HandlerCall → Prop
  | ⟨.bound .walletReservationsReserve, (params : WalletReservationsReserveParams)⟩ =>
      params.coinIds = [] ∨ params.ttlSecs = some 0
  | _ => False

/-! ## Sets of keys -/

theorem ext_members {left right : BTreeMap String Unit} (same : members left = members right) :
    left = right := by
  apply BTreeMap.ext_get?
  intro key
  have present : (left.get? key).isSome = true ↔ (right.get? key).isSome = true := by
    rw [← mem_members, ← mem_members, same]
  cases inLeft : left.get? key <;> cases inRight : right.get? key <;> simp_all

theorem countWith_insert_again (keys : List String) (set : BTreeMap String Unit) :
    (countWith insert keys (countWith insert keys set).2).2 = (countWith insert keys set).2 := by
  apply ext_members
  rw [members_countWith_insert, members_countWith_insert, Finset.union_assoc, Finset.union_self]

theorem countWith_remove_again (keys : List String) (set : BTreeMap String Unit) :
    (countWith remove keys (countWith remove keys set).2).2 = (countWith remove keys set).2 := by
  apply ext_members
  rw [members_countWith_remove, members_countWith_remove, Finset.sdiff_idem]

/-! ## Calls -/

section Calls

variable (env : Environment) (fixtures : ControlHandler Id)

/-- To repeat a call changes nothing, unless it reserves. -/
theorem effect_again (call : HandlerCall) (other : call.1 ≠ .bound .walletReservationsReserve)
    (state : MockState) : (node fixtures).effect call ((node fixtures).effect call state) =
      (node fixtures).effect call state := by
  rcases call with ⟨H, params⟩
  cases H with
  | chiaPeersList => rfl
  | bound C =>
      cases C with
      | walletWatch =>
          exact congrArg (MockState.mk · state.marginBp state.reservations)
            (countWith_insert_again (WalletWatchParams.publicKeys params) state.enrolled)
      | walletUnwatch =>
          exact congrArg (MockState.mk · state.marginBp state.reservations)
            (countWith_remove_again (WalletUnwatchParams.publicKeys params) state.enrolled)
      | walletReservationsRelease =>
          exact congrArg (MockState.mk state.enrolled state.marginBp)
            (BTreeMap.erase_erase state.reservations
              (WalletReservationsReleaseParams.reservationId params))
      | walletResetCoinDb => exact effect_resetCoinDb _ params
      | walletReservationsReserve => exact absurd rfl other
      | _ => rfl

variable {env} {request : JsonRpcRequest} {params : WalletReservationsReserveParams}

theorem granted_lasts (reservations : BTreeMap String (List String × UInt64))
    (lasting : params.ttlSecs ≠ some 0) : 0 < (granted reservations params).ttlSecs.toNat := by
  show 0 < (if _ ≤ mockMaxTtlSecs then _ else mockMaxTtlSecs).toNat
  split
  · cases given : params.ttlSecs with
    | none => decide
    | some secs =>
        apply Nat.pos_of_ne_zero
        intro zero
        exact lasting (given.trans (congrArg some (UInt64.toNat_inj.mp zero)))
  · decide

/-- A reservation that was granted for some time holds its coins. -/
theorem held_granted (state : MockState) (lasting : params.ttlSecs ≠ some 0)
    (free : ∀ coin ∈ params.coinIds, ¬Held now (tableOf state.reservations) coin) :
    let result := granted state.reservations params
    ∀ coin ∈ params.coinIds, Held now (tableOf (state.reservations.insert result.reservationId
      (result.coinIds, result.expiresAtUnix))) coin := by
  intro result coin member
  have expires : result.expiresAtUnix.toNat = now + result.ttlSecs.toNat :=
    (granted_expires state.reservations params).1
  have lasts : 0 < result.ttlSecs.toNat := granted_lasts state.reservations lasting
  rw [tableOf_insert, held_grant_of_free member (free coin member), Hold.Live]
  show now < result.expiresAtUnix.toNat
  omega

/-- A request to reserve that is repeated is refused for its first coin, and changes nothing. -/
theorem reserve_again {coin : String} {rest : List String}
    (found : interpret env request = .ok ⟨.bound .walletReservationsReserve, params⟩)
    (coins : params.coinIds = coin :: rest) (lasting : params.ttlSecs ≠ some 0)
    (state : MockState)
    (free : ∀ coin ∈ params.coinIds, ¬Held now (tableOf state.reservations) coin) :
    let next := (((node fixtures).dispatch env request).run state).2
    ((node fixtures).dispatch env request).run next =
      (.failure request.id (alreadyReserved coin), next) := by
  intro next
  have reached : next = { state with
      reservations := state.reservations.insert (granted state.reservations params).reservationId
        ((granted state.reservations params).coinIds,
          (granted state.reservations params).expiresAtUnix) } :=
    congrArg Prod.snd (reserve_granted fixtures state found free)
  have held : coin ∈ heldCoins next.reservations := by
    rw [mem_heldCoins, reached]
    exact held_granted state lasting free coin (coins ▸ List.mem_cons_self)
  have search : params.coinIds.find? (heldCoins next.reservations).contains = some coin := by
    rw [coins, List.find?_cons_of_pos (List.contains_iff_mem.mpr held)]
  rw [run_dispatch_reserve fixtures next found, search]

/-- A request is absorbed unless it asks for a reservation that would hold nothing. -/
theorem absorbed_of_not_hollow (request : JsonRpcRequest)
    (solid : ∀ call ∈ callsOf env request, ¬Hollow call) :
    Absorbed (fun request => ((node fixtures).dispatch env request).run) request := by
  intro state
  rcases interpret_cases env request with ⟨error, refused⟩ | ⟨H, params, _, _, found⟩
  · simp only [dispatch_of_error (node fixtures) refused]
    rfl
  · have member : (⟨H, params⟩ : HandlerCall) ∈ callsOf env request := by
      rw [callsOf, found]
      exact List.mem_singleton_self _
    by_cases reserves : H = .bound .walletReservationsReserve
    · subst reserves
      rcases not_or.mp (solid _ member) with ⟨some, lasting⟩
      rcases List.exists_cons_of_ne_nil some with ⟨coin, rest, coins⟩
      by_cases clashes : ∃ coin ∈ WalletReservationsReserveParams.coinIds params,
          Held now (tableOf state.reservations) coin
      · rcases reserve_refused fixtures state found clashes with ⟨_, _, _, outcome⟩
        simp only [outcome]
      · have free := fun coin member held => clashes ⟨coin, member, held⟩
        have repeated : ((node fixtures).dispatch env request).run
            (((node fixtures).dispatch env request).run state).2 = (_, _) :=
          reserve_again fixtures found coins lasting state free
        simp only [repeated]
    · simp only [run_dispatch _ found]
      exact effect_again fixtures ⟨H, params⟩ reserves state

/-- A reservation that would hold nothing makes no coin held. -/
theorem held_of_hollow {reservations : BTreeMap String (List String × UInt64)}
    (hollow : Hollow ⟨.bound .walletReservationsReserve, params⟩) {coin : String} :
    let result := granted reservations params
    Held now (tableOf (reservations.insert result.reservationId
        (result.coinIds, result.expiresAtUnix))) coin →
      Held now (tableOf reservations) coin := by
  intro result held
  rw [tableOf_insert, held_grant_iff] at held
  rcases held with ⟨has, live⟩ | before
  · rcases hollow with empty | lapsed
    · have coins : result.coinIds = [] := empty
      rw [coins] at has
      cases has
    · have expires : result.expiresAtUnix.toNat = now + result.ttlSecs.toNat :=
        (granted_expires reservations params).1
      have zero : result.ttlSecs = 0 := by
        show min (params.ttlSecs.getD mockDefaultTtlSecs) mockMaxTtlSecs = 0
        rw [lapsed]
        rfl
      rw [zero] at expires
      exact absurd live (Nat.not_lt_of_le (Nat.le_of_eq expires))
  · exact before.of_release

/-- As long as nothing was released, every delivery of a request for a reservation that would
hold nothing makes another one. -/
theorem reservations_of_hollow
    (found : interpret env request = .ok ⟨.bound .walletReservationsReserve, params⟩)
    (hollow : Hollow ⟨.bound .walletReservationsReserve, params⟩) {start : MockState} {made : Nat}
    (unreleased : Unreleased made start.reservations)
    (free : ∀ coin ∈ params.coinIds, ¬Held now (tableOf start.reservations) coin) (count : Nat) :
    let final := ((serveAll env (node fixtures) (List.replicate count request)).run start).2
    Unreleased (made + count) final.reservations ∧
      ∀ coin ∈ params.coinIds, ¬Held now (tableOf final.reservations) coin := by
  induction count with
  | zero => exact ⟨unreleased, free⟩
  | succ count ih =>
      rcases ih with ⟨unreleased, free⟩
      intro final
      have last : final = (((node fixtures).dispatch env request).run
          ((serveAll env (node fixtures) (List.replicate count request)).run start).2).2 := by
        show ((serveAll env (node fixtures) (List.replicate (count + 1) request)).run _).2 = _
        rw [List.replicate_succ', serveAll_eq_run, serveAll_eq_run, run_append]
        rfl
      generalize ((serveAll env (node fixtures) (List.replicate count request)).run
        start).2 = before at last unreleased free
      rw [last, reserve_granted fixtures before found free]
      have named : (granted before.reservations params).reservationId =
          handleAfter (made + count) :=
        congrArg handleAfter unreleased.length
      constructor
      · rw [named]
        exact unreleased.insert _
      · intro coin member held
        exact free coin member (held_of_hollow hollow held)

end Calls

/-- Requests may be delivered any number of times: the state in the end and the response to
the first delivery of each are as if it was delivered once.  A request to reserve that was
granted and is repeated is refused for its first coin.  The exception is a reservation that
would hold nothing: if nothing was released before and none of its coins is held, each
delivery of a request for it makes another one. -/
theorem retries_absorbed (env : Environment) (fixtures : ControlHandler Id) :
    (∀ (deliveries : List (JsonRpcRequest × Nat)) (start : MockState),
      (∀ delivery ∈ deliveries, ∀ call ∈ callsOf env delivery.1, ¬Hollow call) →
        let often := (serveAll env (node fixtures) (delivered deliveries)).run start
        let once := (serveAll env (node fixtures) (deliveries.map Prod.fst)).run start
        often.2 = once.2 ∧ firsts deliveries often.1 = once.1) ∧
    (∀ request (params : WalletReservationsReserveParams) coin rest (state : MockState),
      interpret env request = .ok ⟨.bound .walletReservationsReserve, params⟩ →
        params.coinIds = coin :: rest → params.ttlSecs ≠ some 0 →
          (∀ coin ∈ params.coinIds, ¬Held now (tableOf state.reservations) coin) →
            let next := (((node fixtures).dispatch env request).run state).2
            ((node fixtures).dispatch env request).run next =
              (.failure request.id (alreadyReserved coin), next)) ∧
    ∀ (before : List JsonRpcRequest) request (params : WalletReservationsReserveParams)
        (count : Nat),
      ReleaseFree (events fixtures .initial (before.flatMap (callsOf env))) →
        interpret env request = .ok ⟨.bound .walletReservationsReserve, params⟩ →
          Hollow ⟨.bound .walletReservationsReserve, params⟩ →
            let start := ((serveAll env (node fixtures) before).run .initial).2
            (∀ coin ∈ params.coinIds, ¬Held now (tableOf start.reservations) coin) →
              (((serveAll env (node fixtures) (List.replicate count request)).run
                start).2).reservations.entries.length =
                  start.reservations.entries.length + count := by
  refine ⟨?_, ?_, ?_⟩
  · intro deliveries start solid often once
    have absorbed : ∀ delivery ∈ deliveries,
        Absorbed (fun request => ((node fixtures).dispatch env request).run) delivery.1 :=
      fun delivery member => absorbed_of_not_hollow fixtures delivery.1 (solid delivery member)
    have settled := run_delivered absorbed start
    rw [← serveAll_eq_run, ← serveAll_eq_run] at settled
    exact settled
  · intro request params coin rest state found coins lasting free
    exact reserve_again fixtures found coins lasting state free
  · intro before request params count kept found hollow start free
    have unreleased := (unreleased_events fixtures unreleased_empty kept).2
    have reached : start = (node fixtures).effects .initial (before.flatMap (callsOf env)) :=
      serveAll_effects (node fixtures) before .initial
    rw [← reached] at unreleased
    have made := reservations_of_hollow fixtures found hollow unreleased free count
    rw [made.1.length, unreleased.length]

/-- A reservation of another coin that is over at once. -/
def lapsedParams : WalletReservationsReserveParams := ⟨[.ofList (List.replicate 64 'b')], some 0⟩

theorem releaseFree_reserveCoin (id : RequestId) :
    ReleaseFree (events idleNode .initial ([reserveCoin id].flatMap (callsOf plainText))) := by
  have log : events idleNode .initial ([reserveCoin id].flatMap (callsOf plainText)) =
      [(now, .grant "mock-res-1" ⟨[.ofList (List.replicate 64 'a')], now + 300⟩)] := rfl
  rw [log]
  exact List.forall_mem_singleton.mpr fun _ => nofun

theorem free_lapsedParams (id : RequestId) :
    let state := ((serveAll plainText (node idleNode) [reserveCoin id]).run .initial).2
    ∀ coin ∈ lapsedParams.coinIds, ¬Held now (tableOf state.reservations) coin := by
  intro state coin member isHeld
  have held : heldCoins state.reservations = [.ofList (List.replicate 64 'a')] := rfl
  rw [← mem_heldCoins, held, List.mem_singleton] at isHeld
  rw [isHeld] at member
  revert member
  decide +kernel

/-- One request to reserve is delivered twice and makes one reservation; another one, which
would hold nothing, is delivered three times and makes three. -/
theorem retries_absorbed_lapsed :
    (let deliveries := [(reserveCoin (.number 1), 1)]
      let often := (serveAll plainText (node idleNode) (delivered deliveries)).run .initial
      let once := (serveAll plainText (node idleNode) [reserveCoin (.number 1)]).run .initial
      often.2 = once.2 ∧ firsts deliveries often.1 = once.1) ∧
    let start := ((serveAll plainText (node idleNode) [reserveCoin (.number 1)]).run .initial).2
    let lapsed := List.replicate 3 (buildRequest (.number 2) lapsedParams)
    ((serveAll plainText (node idleNode) lapsed).run start).2.reservations.entries.length =
      start.reservations.entries.length + 3 := by
  rcases retries_absorbed plainText idleNode with ⟨absorbed, -, again⟩
  constructor
  · refine absorbed [(reserveCoin (.number 1), 1)] .initial ?_
    have calls : callsOf plainText (reserveCoin (.number 1)) =
        [⟨.bound .walletReservationsReserve,
          (⟨[.ofList (List.replicate 64 'a')], none⟩ : WalletReservationsReserveParams)⟩] := rfl
    rw [List.forall_mem_singleton, calls, List.forall_mem_singleton]
    rintro (empty | zero)
    · cases empty
    · cases zero
  · have found : interpret plainText (buildRequest (.number 2) lapsedParams) =
        .ok ⟨.bound .walletReservationsReserve, lapsedParams⟩ :=
      interpret_buildRequest (C := .walletReservationsReserve) _ rfl
    exact again [reserveCoin (.number 1)] _ lapsedParams 3 (releaseFree_reserveCoin _) found
      (.inr rfl) (free_lapsedParams _)

end MockNode

end ControlInterface
