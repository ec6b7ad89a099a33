import ControlInterface.Holds
import ControlInterface.Reference.Node

/-!
# The reservations of a node

Reservations are holds on coins: `control.wallet.reservations.reserve` grants one on all of
its coins or on none of them, and no two of them that are live share a coin, however the
requests of different callers interleave.
-/

namespace ControlInterface

open Serde ControlHandler Holds

namespace MockNode

/-! ## The table -/

/-- The time of the node. -/
def now : Nat := mockNowUnix.toNat

/-- The reservations as holds on coins. -/
def tableOf (reservations : BTreeMap String (List String × UInt64)) : Table String String :=
  fun id => (reservations.get? id).map fun (coins, expires) => ⟨coins, expires.toNat⟩

theorem tableOf_insert (reservations : BTreeMap String (List String × UInt64)) (id : String)
    (coins : List String) (expires : UInt64) :
    tableOf (reservations.insert id (coins, expires)) =
      (Event.grant id ⟨coins, expires.toNat⟩).apply (tableOf reservations) := by
  funext other
  rw [tableOf, BTreeMap.get?_insert, Event.apply, Function.update_apply]
  split <;> rfl

theorem tableOf_erase (reservations : BTreeMap String (List String × UInt64)) (id : String) :
    tableOf (reservations.erase id) = (Event.release id).apply (tableOf reservations) := by
  funext other
  rw [tableOf, BTreeMap.get?_erase, Event.apply, Function.update_apply]
  split <;> rfl

theorem mem_live {reservations : BTreeMap String (List String × UInt64)} {id : String}
    {coins : List String} {expires : UInt64} :
    (id, coins, expires) ∈ live reservations ↔
      reservations.get? id = some (coins, expires) ∧ now < expires.toNat := by
  rw [live, List.mem_filter, BTreeMap.mem_entries_iff, decide_eq_true_iff, gt_iff_lt,
    UInt64.lt_iff_toNat_lt, now]

/-- The coins of the live reservations are those that are held. -/
theorem mem_heldCoins {reservations : BTreeMap String (List String × UInt64)} {coin : String} :
    coin ∈ heldCoins reservations ↔ Held now (tableOf reservations) coin := by
  rw [heldCoins, List.mem_flatMap]
  constructor
  · rintro ⟨⟨id, coins, expires⟩, member, has⟩
    rw [mem_live] at member
    exact ⟨id, ⟨coins, expires.toNat⟩, by rw [tableOf, member.1]; rfl, member.2, has⟩
  · rintro ⟨id, hold, found, isLive, has⟩
    rcases Option.map_eq_some_iff.mp found with ⟨⟨coins, expires⟩, stored, rfl⟩
    exact ⟨(id, coins, expires), mem_live.mpr ⟨stored, isLive⟩, has⟩

/-! ## Calls -/

/-- What an answered call does to the reservations, if it does anything. -/
def eventOf : (call : HandlerCall) → Except ControlError call.1.Output →
    Option (Event String String)
  | ⟨.bound .walletReservationsReserve, _⟩, .ok (result : WalletReservationsReserveResult) =>
      some (.grant result.reservationId ⟨result.coinIds, result.expiresAtUnix.toNat⟩)
  | ⟨.bound .walletReservationsRelease, (params : WalletReservationsReleaseParams)⟩, .ok _ =>
      some (.release params.reservationId)
  | _, _ => none

section Calls

variable (fixtures : ControlHandler Id)

/-- The event of a call on a state. -/
def event (call : HandlerCall) (state : MockState) : Option (Event String String) :=
  eventOf call ((node fixtures).answer call state)

/-- What a call can do to the reservations, with the event it comes to. -/
inductive Does (reservations : BTreeMap String (List String × UInt64)) :
    Option (Event String String) → BTreeMap String (List String × UInt64) → Prop
  | nothing : Does reservations none reservations
  | release (id : String) :
      Does reservations (some (.release id)) (reservations.erase id)
  | grant {result : WalletReservationsReserveResult} (params : WalletReservationsReserveParams)
      (issued : granted reservations params = result)
      (free : ∀ coin ∈ result.coinIds, ¬Held now (tableOf reservations) coin) :
      Does reservations (some (.grant result.reservationId
          ⟨result.coinIds, result.expiresAtUnix.toNat⟩))
        (reservations.insert result.reservationId (result.coinIds, result.expiresAtUnix))

theorem does_reserve (params : WalletReservationsReserveParams) (state : MockState) :
    let (outcome, next) := (walletReservationsReserve params).run.run state
    Does state.reservations (eventOf ⟨.bound .walletReservationsReserve, params⟩ outcome)
      next.reservations := by
  rw [run_reserve]
  cases (SelfValidating.validated params : Except ControlError _) with
  | error error => exact .nothing
  | ok checked =>
      cases search : checked.coinIds.find? (heldCoins state.reservations).contains with
      | some clash =>
          simp only [search]
          exact .nothing
      | none =>
          simp only [search]
          refine .grant checked rfl ?_
          intro coin member held
          apply List.find?_eq_none.mp search coin member
          exact List.contains_iff_mem.mpr (mem_heldCoins.mpr held)

/-- Every call does one of these things. -/
theorem does_effect (call : HandlerCall) (state : MockState) :
    Does state.reservations (event fixtures call state)
      ((node fixtures).effect call state).reservations := by
  have idle (other : component call.1 ≠ some .reservations)
      (silent : event fixtures call state = none) :
      Does state.reservations (event fixtures call state)
        ((node fixtures).effect call state).reservations := by
    rw [silent, (effect_agreeBut fixtures state call).reservations other]
    exact .nothing
  rcases call with ⟨H, params⟩
  cases H with
  | chiaPeersList => exact idle nofun rfl
  | bound C =>
      cases C with
      | walletReservationsReserve => exact does_reserve params state
      | walletReservationsRelease => exact .release _
      | _ => exact idle nofun rfl

section Does

variable {reservations others : BTreeMap String (List String × UInt64)}
  {happened : Option (Event String String)}

theorem Does.allowed (does : Does reservations happened others) :
    ∀ event ∈ happened, event.Allowed now (tableOf reservations) := by
  cases does with
  | nothing => exact nofun
  | release id => rintro _ ⟨⟩; trivial
  | grant params issued free => rintro _ ⟨⟩; exact free

theorem Does.table (does : Does reservations happened others) :
    tableOf others = happened.elim (tableOf reservations) (Event.apply (tableOf reservations)) := by
  cases does with
  | nothing => rfl
  | release id => exact tableOf_erase _ id
  | grant params issued free => exact tableOf_insert _ _ _ _

end Does

/-- What calls do that are made one after the other, with the time of the node. -/
def events (state : MockState) : List HandlerCall → List (Nat × Event String String)
  | [] => []
  | call :: rest =>
      (event fixtures call state).toList.map (now, ·) ++
        events ((node fixtures).effect call state) rest

/-- The calls are a run of the holds. -/
theorem run_events (calls : List HandlerCall) (state : MockState) :
    Run now (tableOf state.reservations) (events fixtures state calls)
      (tableOf ((node fixtures).effects state calls).reservations) := by
  induction calls generalizing state with
  | nil => exact .nil
  | cons call rest ih =>
      have does := does_effect fixtures call state
      have others := ih ((node fixtures).effect call state)
      rw [does.table] at others
      rw [events]
      cases happened : event fixtures call state with
      | none =>
          rw [happened] at others
          exact others
      | some change =>
          rw [happened] at others
          exact .cons le_rfl (does.allowed change happened) others

theorem time_of_mem_events {calls : List HandlerCall} {state : MockState} :
    ∀ event ∈ events fixtures state calls, event.1 = now := by
  induction calls generalizing state with
  | nil => exact nofun
  | cons call rest ih =>
      intro event member
      rcases List.mem_append.mp member with here | there
      · rcases List.mem_map.mp here with ⟨_, _, rfl⟩
        rfl
      · exact ih event there

/-! ## Handles -/

/-- The handle of the reservation that is made when there are as many before it. -/
def handleAfter (count : Nat) : String := "mock-res-" ++ toString (count + 1)

theorem handleAfter_injective : Function.Injective handleAfter := by
  intro left right same
  have digits : Nat.repr (left + 1) = Nat.repr (right + 1) :=
    (String.append_right_inj "mock-res-").mp same
  exact Nat.succ.inj (Nat.repr_injective digits)

/-- The reservations are the first ones, and none of them was released. -/
structure Unreleased (count : Nat) (reservations : BTreeMap String (List String × UInt64)) :
    Prop where
  length : reservations.entries.length = count
  named : ∀ id ∈ reservations.keys, ∃ earlier < count, id = handleAfter earlier

theorem unreleased_empty : Unreleased 0 BTreeMap.empty := ⟨rfl, nofun⟩

theorem Unreleased.fresh {count : Nat} {reservations : BTreeMap String (List String × UInt64)}
    (unreleased : Unreleased count reservations) : handleAfter count ∉ reservations.keys := by
  intro member
  rcases unreleased.named _ member with ⟨earlier, before, same⟩
  exact absurd (handleAfter_injective same) (Nat.ne_of_gt before)

theorem Unreleased.insert {count : Nat} {reservations : BTreeMap String (List String × UInt64)}
    (unreleased : Unreleased count reservations) (value : List String × UInt64) :
    Unreleased (count + 1) (reservations.insert (handleAfter count) value) := by
  have grown := BTreeMap.insertEntry_perm value unreleased.fresh
  constructor
  · exact grown.length_eq.trans (congrArg Nat.succ unreleased.length)
  · intro id member
    have either := (grown.map Prod.fst).mem_iff.mp member
    rcases List.mem_cons.mp either with rfl | before
    · exact ⟨count, Nat.lt_succ_self _, rfl⟩
    · rcases unreleased.named id before with ⟨earlier, less, same⟩
      exact ⟨earlier, Nat.lt_succ_of_lt less, same⟩

/-- No event gives a reservation up. -/
def ReleaseFree (log : List (Nat × Event String String)) : Prop :=
  ∀ event ∈ log, ∀ id, event.2 ≠ .release id

theorem Does.unreleased {reservations others : BTreeMap String (List String × UInt64)}
    {happened : Option (Event String String)} (does : Does reservations happened others)
    {count : Nat} (unreleased : Unreleased count reservations)
    (kept : ∀ id, happened ≠ some (.release id)) :
    (happened = none ∧ Unreleased count others) ∨
      ∃ hold, happened = some (.grant (handleAfter count) hold) ∧
        Unreleased (count + 1) others := by
  cases does with
  | nothing => exact .inl ⟨rfl, unreleased⟩
  | release id => exact absurd rfl (kept id)
  | @grant result params issued free =>
      have handle : result.reservationId = handleAfter count := by
        rw [← unreleased.length, ← issued]
        rfl
      rw [handle]
      exact .inr ⟨_, rfl, unreleased.insert _⟩

/-- As long as nothing is released, every grant has a handle of its own. -/
theorem unreleased_events {calls : List HandlerCall} {state : MockState} {count : Nat}
    (unreleased : Unreleased count state.reservations)
    (kept : ReleaseFree (events fixtures state calls)) :
    let log := events fixtures state calls
    log.map (·.2.handle) = (List.range' count log.length).map handleAfter ∧
      Unreleased (count + log.length) ((node fixtures).effects state calls).reservations := by
  induction calls generalizing state count with
  | nil => exact ⟨rfl, unreleased⟩
  | cons call rest ih =>
      have keptHere : ∀ id, event fixtures call state ≠ some (.release id) := by
        intro id released
        refine kept (now, .release id) (List.mem_append_left _ ?_) id rfl
        rw [released]
        exact List.mem_singleton_self _
      have keptLater : ReleaseFree (events fixtures ((node fixtures).effect call state) rest) :=
        fun later member => kept later (List.mem_append_right _ member)
      rw [events]
      rcases (does_effect fixtures call state).unreleased unreleased keptHere with
        ⟨none, same⟩ | ⟨hold, grant, more⟩
      · rw [none]
        exact ih same keptLater
      · rcases ih more keptLater with ⟨handles, after⟩
        rw [grant, Option.toList_some, List.map_singleton, List.singleton_append]
        dsimp only
        rw [List.map_cons, List.length_cons, List.range'_succ, List.map_cons, handles]
        rw [Nat.succ_add_eq_add_succ] at after
        exact ⟨rfl, after⟩

/-- As long as nothing is released, what is held stays held. -/
theorem held_of_releaseFree {calls : List HandlerCall} {state : MockState} {count : Nat}
    (unreleased : Unreleased count state.reservations)
    (kept : ReleaseFree (events fixtures state calls)) {coin : String}
    (held : Held now (tableOf state.reservations) coin) :
    Held now (tableOf ((node fixtures).effects state calls).reservations) coin := by
  rcases held with ⟨handle, hold, found, live, has⟩
  refine ⟨handle, hold, ?_, live, has⟩
  rw [(run_events fixtures calls state).keeps, found]
  intro event member same
  have isKey : handle ∈ state.reservations.keys := by
    rcases Option.map_eq_some_iff.mp found with ⟨stored, isStored, -⟩
    exact List.mem_map.mpr ⟨_, (BTreeMap.mem_entries_iff ..).mpr isStored, rfl⟩
  rcases unreleased.named handle isKey with ⟨earlier, before, rfl⟩
  have isLater := List.mem_map_of_mem (f := (·.2.handle)) member
  rw [(unreleased_events fixtures unreleased kept).1] at isLater
  rcases List.mem_map.mp isLater with ⟨later, inRange, handle⟩
  have order := (List.mem_range'_1.mp inRange).1
  rw [same] at handle
  exact absurd (handleAfter_injective handle) (by omega)

end Calls

/-! ## Runs -/

theorem exclusive_initial : Exclusive now (tableOf MockState.initial.reservations) :=
  fun _ _ _ _ absent => nomatch absent

/-- A reservation ends when the node said, and at most ten minutes after it was made. -/
theorem granted_expires (reservations : BTreeMap String (List String × UInt64))
    (params : WalletReservationsReserveParams) :
    let result := granted reservations params
    result.expiresAtUnix.toNat = now + result.ttlSecs.toNat ∧ result.ttlSecs.toNat ≤ 600 := by
  intro result
  have bounded : result.ttlSecs ≤ mockMaxTtlSecs := by
    show (if _ ≤ mockMaxTtlSecs then _ else mockMaxTtlSecs) ≤ mockMaxTtlSecs
    split
    · assumption
    · exact UInt64.le_refl _
  have small : result.ttlSecs.toNat ≤ 600 := UInt64.le_iff_toNat_le.mp bounded
  refine ⟨?_, small⟩
  show (mockNowUnix + result.ttlSecs).toNat = mockNowUnix.toNat + result.ttlSecs.toNat
  have start : mockNowUnix.toNat = 1800000000 := rfl
  rw [UInt64.toNat_add, Nat.mod_eq_of_lt]
  omega

section Requests

variable {env : Environment} (fixtures : ControlHandler Id) (state : MockState)
  {request : JsonRpcRequest}

theorem run_dispatch_reserve {params : WalletReservationsReserveParams}
    (found : interpret env request = .ok ⟨.bound .walletReservationsReserve, params⟩) :
    ((node fixtures).dispatch env request).run state =
      match params.coinIds.find? (heldCoins state.reservations).contains with
      | some clash => (.failure request.id (alreadyReserved clash), state)
      | none =>
          let result := granted state.reservations params
          (.success request.id (toValue result), { state with
            reservations := state.reservations.insert result.reservationId
              (result.coinIds, result.expiresAtUnix) }) := by
  have valid : (SelfValidating.validated params : Except ControlError _) = .ok params :=
    ((CallType.walletReservationsReserve.binding.node env)).validated_of_accept
      (interpret_eq_ok found).2
  have served := run_reserve state params
  rw [valid] at served
  rw [run_dispatch _ found]
  show (respond request.id ((walletReservationsReserve params).run.run state).1,
    ((walletReservationsReserve params).run.run state).2) = _
  rw [served]
  cases search : params.coinIds.find? (heldCoins state.reservations).contains with
  | some clash => simp only [search]; rfl
  | none => simp only [search]; rfl

/-- A request for coins of which one is held is refused. -/
theorem reserve_refused {params : WalletReservationsReserveParams}
    (found : interpret env request = .ok ⟨.bound .walletReservationsReserve, params⟩)
    (clashes : ∃ coin ∈ params.coinIds, Held now (tableOf state.reservations) coin) :
    ∃ clash ∈ params.coinIds, Held now (tableOf state.reservations) clash ∧
      ((node fixtures).dispatch env request).run state =
        (.failure request.id (alreadyReserved clash), state) := by
  rw [run_dispatch_reserve fixtures state found]
  cases search : params.coinIds.find? (heldCoins state.reservations).contains with
  | none =>
      rcases clashes with ⟨coin, member, held⟩
      exact absurd (List.contains_iff_mem.mpr (mem_heldCoins.mpr held))
        (List.find?_eq_none.mp search coin member)
  | some clash =>
      refine ⟨clash, List.mem_of_find?_eq_some search, ?_, rfl⟩
      exact mem_heldCoins.mp (List.contains_iff_mem.mp (List.find?_some search))

/-- A request for coins that are not held is granted. -/
theorem reserve_granted {params : WalletReservationsReserveParams}
    (found : interpret env request = .ok ⟨.bound .walletReservationsReserve, params⟩)
    (free : ∀ coin ∈ params.coinIds, ¬Held now (tableOf state.reservations) coin) :
    let result := granted state.reservations params
    ((node fixtures).dispatch env request).run state =
      (.success request.id (toValue result), { state with
        reservations := state.reservations.insert result.reservationId
          (result.coinIds, result.expiresAtUnix) }) := by
  rw [run_dispatch_reserve fixtures state found]
  cases search : params.coinIds.find? (heldCoins state.reservations).contains with
  | none => rfl
  | some clash =>
      exact absurd (mem_heldCoins.mp (List.contains_iff_mem.mp (List.find?_some search)))
        (free clash (List.mem_of_find?_eq_some search))

/-- The listed coins are those that are held. -/
theorem exists_listed (coin : String) :
    (∃ row ∈ (live state.reservations).flatMap fun (id, coins, expires) =>
        coins.map fun coinId => (⟨coinId, id, expires⟩ : ReservedCoin), row.coinId = coin) ↔
      Held now (tableOf state.reservations) coin := by
  rw [← mem_heldCoins, heldCoins, List.mem_flatMap]
  constructor
  · rintro ⟨row, member, rfl⟩
    rcases List.mem_flatMap.mp member with ⟨entry, isLive, inside⟩
    rcases List.mem_map.mp inside with ⟨coinId, has, rfl⟩
    exact ⟨entry, isLive, has⟩
  · rintro ⟨entry, isLive, has⟩
    refine ⟨⟨coin, entry.1, entry.2.2⟩, List.mem_flatMap.mpr ⟨entry, isLive, ?_⟩, rfl⟩
    exact List.mem_map.mpr ⟨coin, has, rfl⟩

end Requests

section Runs

variable (env : Environment) (fixtures : ControlHandler Id)

theorem exclusive_effects (calls : List HandlerCall) :
    Exclusive now (tableOf ((node fixtures).effects .initial calls).reservations) :=
  (run_events fixtures calls .initial).exclusive exclusive_initial le_rfl
    fun event member => Nat.le_of_eq (time_of_mem_events fixtures event member)

/-- No two live reservations share a coin: not after requests served in turn, and not at any
point of a session with many calls in flight.  Two reservations that were granted with one
coin had the first one end between them, or a request to reserve get its handle; if nothing
was released, the first one was over at once. -/
theorem reservations_exclusive :
    (∀ requests : List JsonRpcRequest,
      Exclusive now (tableOf
        ((serveAll env (node fixtures) requests).run .initial).2.reservations)) ∧
      (∀ state, InFlight.Run (jsonWire env (node fixtures)) (.initial .initial) state →
        Exclusive now (tableOf state.node.reservations)) ∧
      ∀ (requests : List JsonRpcRequest) (front middle back : List (Nat × Event String String))
        (left right : String) (leftHold rightHold : Hold String),
        let log := events fixtures .initial (requests.flatMap (callsOf env))
        log = front ++ (now, .grant left leftHold) :: middle ++
            (now, .grant right rightHold) :: back →
          ∀ coin ∈ leftHold.items, coin ∈ rightHold.items →
            (leftHold.expires ≤ now ∨ ∃ event ∈ middle, event.2.handle = left) ∧
              (ReleaseFree log → leftHold.expires ≤ now) := by
  refine ⟨?_, ?_, ?_⟩
  · intro requests
    rw [serveAll_effects]
    exact exclusive_effects fixtures _
  · intro state run
    rcases run_effects (node fixtures) run with ⟨calls, _, reached⟩
    rw [reached]
    exact exclusive_effects fixtures calls
  · intro requests front middle back left right leftHold rightHold log split coin leftHas rightHas
    have run := run_events fixtures (requests.flatMap (callsOf env)) .initial
    rw [show events fixtures .initial (requests.flatMap (callsOf env)) = _ from split] at run
    have between := run.between_grants leftHas rightHas
    refine ⟨between, fun releaseFree => between.resolve_right ?_⟩
    rintro ⟨event, member, same⟩
    have handles : log.map (·.2.handle) = (List.range' 0 log.length).map handleAfter :=
      (unreleased_events fixtures unreleased_empty releaseFree).1
    have distinct : (log.map (·.2.handle)).Nodup := by
      rw [handles]
      exact (List.nodup_range').map handleAfter_injective
    rw [split, List.append_assoc, List.map_append] at distinct
    have later := (List.nodup_append.mp distinct).2.1
    rw [List.cons_append, List.map_cons, List.nodup_cons] at later
    exact later.1 (List.mem_map.mpr ⟨event, List.mem_append_left _ member, same⟩)

/-- A request for a coin. -/
def reserveCoin (id : RequestId) : JsonRpcRequest :=
  buildRequest id
    (⟨[.ofList (List.replicate 64 'a')], none⟩ : WalletReservationsReserveParams)

/-- The coin is granted twice, and released in between. -/
theorem reservations_exclusive_released :
    let requests := [reserveCoin (.number 1),
      buildRequest (.number 2) (⟨"mock-res-1"⟩ : WalletReservationsReleaseParams),
      reserveCoin (.number 3)]
    let hold : Hold String := ⟨[.ofList (List.replicate 64 'a')], now + 300⟩
    let middle : List (Nat × Event String String) := [(now, .release "mock-res-1")]
    events idleNode .initial (requests.flatMap (callsOf plainText)) =
        (now, .grant "mock-res-1" hold) :: middle ++ [(now, .grant "mock-res-1" hold)] ∧
      (hold.expires ≤ now ∨ ∃ event ∈ middle, event.2.handle = "mock-res-1") := by
  intro requests hold middle
  have split : events idleNode .initial (requests.flatMap (callsOf plainText)) =
      [] ++ (now, .grant "mock-res-1" hold) :: middle ++ (now, .grant "mock-res-1" hold) :: [] :=
    rfl
  have exclusive := (reservations_exclusive plainText idleNode).2.2 requests [] middle []
    "mock-res-1" "mock-res-1" hold hold split (.ofList (List.replicate 64 'a'))
  exact ⟨split, (exclusive List.mem_cons_self List.mem_cons_self).1⟩

/-- After any requests: a request to reserve is granted exactly if none of its coins is held,
and if it is refused it names one that is and changes nothing.  A granted reservation holds
all of its coins if it is for some time, which is ten minutes at most, and no other coin comes
to be held; a hold that was under the handle it gets, which may be a live one if there were
releases, is lost.  As long as nothing is released, what is held stays held.  To release a
live reservation frees its coins and no others; and the coins that are listed are those that
are held. -/
theorem reservation_life_cycle (requests : List JsonRpcRequest) :
    let state := ((serveAll env (node fixtures) requests).run .initial).2
    let held (state : MockState) := Held now (tableOf state.reservations)
    (∀ request (params : WalletReservationsReserveParams),
      interpret env request = .ok ⟨.bound .walletReservationsReserve, params⟩ →
        let served := ((node fixtures).dispatch env request).run state
        ((∃ coin ∈ params.coinIds, held state coin) → served.2 = state ∧
            ∃ clash ∈ params.coinIds, held state clash ∧
              served.1 = .failure request.id (alreadyReserved clash)) ∧
          ((∀ coin ∈ params.coinIds, ¬held state coin) →
            let result := granted state.reservations params
            let without := { state with
              reservations := state.reservations.erase result.reservationId }
            served.1 = .success request.id (toValue result) ∧ result.ttlSecs.toNat ≤ 600 ∧
              (∀ coin ∈ params.coinIds, held served.2 coin ↔ 0 < result.ttlSecs.toNat) ∧
              ∀ coin, coin ∉ params.coinIds → (held served.2 coin ↔ held without coin))) ∧
      (∀ later : List JsonRpcRequest,
        ReleaseFree (events fixtures .initial (requests.flatMap (callsOf env))) →
          ReleaseFree (events fixtures state (later.flatMap (callsOf env))) →
            let final := ((serveAll env (node fixtures) later).run state).2
            ∀ coin, held state coin → held final coin) ∧
      (∀ request (params : WalletReservationsReleaseParams),
        interpret env request = .ok ⟨.bound .walletReservationsRelease, params⟩ →
          let served := ((node fixtures).dispatch env request).run state
          ∀ coins expires, state.reservations.get? params.reservationId = some (coins, expires) →
            now < expires.toNat →
              served.1 = .success request.id
                  (toValue (⟨true, coins⟩ : WalletReservationsReleaseResult)) ∧
                ∀ coin, held served.2 coin ↔ held state coin ∧ coin ∉ coins) ∧
      ∀ id, ∃ reserved : List ReservedCoin,
        ((node fixtures).dispatch env (buildRequest id (⟨⟩ : WalletReservationsHeldParams))).run
            state = (.success id
              (toValue (⟨reserved, mockNowUnix⟩ : WalletReservationsHeldResult)), state) ∧
          ∀ coin, (∃ row ∈ reserved, row.coinId = coin) ↔ held state coin := by
  intro state held
  refine ⟨?_, ?_, ?_, ?_⟩
  · intro request params found served
    constructor
    · intro clashes
      rcases reserve_refused fixtures state found clashes with ⟨clash, member, isHeld, outcome⟩
      exact ⟨congrArg Prod.snd outcome, clash, member, isHeld, congrArg Prod.fst outcome⟩
    · intro free result without
      have outcome := reserve_granted fixtures state found free
      have expires := granted_expires state.reservations params
      have table : tableOf served.2.reservations = (Event.grant result.reservationId
          ⟨params.coinIds, result.expiresAtUnix.toNat⟩).apply (tableOf state.reservations) := by
        rw [show served.2 = _ from congrArg Prod.snd outcome, tableOf_insert]
        rfl
      refine ⟨congrArg Prod.fst outcome, expires.2, ?_, ?_⟩
      · intro coin member
        show Held now (tableOf served.2.reservations) coin ↔ _
        rw [table, held_grant_of_free member (free coin member), Hold.Live]
        show now < result.expiresAtUnix.toNat ↔ _
        rw [expires.1]
        exact Nat.lt_add_right_iff_pos
      · intro coin other
        show Held now (tableOf served.2.reservations) coin ↔
          Held now (tableOf (state.reservations.erase result.reservationId)) coin
        rw [table, tableOf_erase, held_grant_iff]
        exact or_iff_right fun granted => other granted.1
  · intro later keptBefore keptLater final coin isHeld
    have reached : state = (node fixtures).effects .initial (requests.flatMap (callsOf env)) :=
      serveAll_effects (node fixtures) requests .initial
    have unreleased := (unreleased_events fixtures unreleased_empty keptBefore).2
    rw [← reached] at unreleased
    show Held now (tableOf ((serveAll env (node fixtures) later).run state).2.reservations) coin
    rw [serveAll_effects]
    exact held_of_releaseFree fixtures unreleased keptLater isHeld
  · intro request params found served coins expires stored isLive
    have outcome : served = (respond request.id
        (.ok (released (state.reservations.get? params.reservationId)) : Except ControlError _),
        { state with reservations := state.reservations.erase params.reservationId }) :=
      run_dispatch (node fixtures) found state
    have exclusive : Exclusive now (tableOf state.reservations) := by
      show Exclusive now (tableOf (((serveAll env (node fixtures) requests).run _).2).reservations)
      rw [serveAll_effects]
      exact exclusive_effects fixtures _
    have holds : tableOf state.reservations params.reservationId =
        some ⟨coins, expires.toNat⟩ := by
      rw [tableOf, stored]
      rfl
    rw [outcome, stored]
    refine ⟨rfl, fun coin => ?_⟩
    show Held now (tableOf (state.reservations.erase params.reservationId)) coin ↔ _
    rw [tableOf_erase]
    exact held_release_iff exclusive holds isLive coin
  · intro id
    have found : interpret env (buildRequest id (⟨⟩ : WalletReservationsHeldParams)) =
        .ok ⟨.bound .walletReservationsHeld, ⟨⟩⟩ :=
      interpret_buildRequest (C := .walletReservationsHeld) id rfl
    exact ⟨_, run_dispatch (node fixtures) found state, exists_listed state⟩

end Runs

end MockNode

end ControlInterface
