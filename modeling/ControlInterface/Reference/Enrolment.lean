import ControlInterface.Reference.Node
import ControlInterface.Roster

/-!
# The keys a node follows

The enrolled keys are a roster that `control.wallet.watch` enters keys on and
`control.wallet.unwatch` strikes keys from, whatever spelling a request uses.
-/

namespace ControlInterface

open Serde ControlHandler Roster

namespace MockNode

/-! ## The set -/

/-- The keys of a set. -/
def members (set : BTreeMap String Unit) : Finset String := set.keys.toFinset

theorem mem_members {set : BTreeMap String Unit} {key : String} :
    key ∈ members set ↔ (set.get? key).isSome = true := by
  rw [members, List.mem_toFinset, BTreeMap.keys, List.mem_map, Option.isSome_iff_exists]
  constructor
  · rintro ⟨⟨_, value⟩, entry, rfl⟩
    exact ⟨value, (BTreeMap.mem_entries_iff set _ value).mp entry⟩
  · rintro ⟨value, stored⟩
    exact ⟨(key, value), (BTreeMap.mem_entries_iff set key value).mpr stored, rfl⟩

theorem keys_sorted (set : BTreeMap String Unit) : set.keys.Pairwise (· < ·) :=
  List.pairwise_map.mpr set.sorted

theorem length_keys (set : BTreeMap String Unit) : set.keys.length = (members set).card := by
  rw [members, List.toFinset_card_of_nodup ((keys_sorted set).imp fun less => ne_of_lt less)]

theorem members_insert (key : String) (set : BTreeMap String Unit) :
    members (insert key set).2 = {key} ∪ members set := by
  ext other
  rw [Finset.mem_union, Finset.mem_singleton, mem_members, mem_members, insert,
    BTreeMap.get?_insert]
  split
  next same => exact iff_of_true rfl (.inl same)
  next differs => exact (or_iff_right differs).symm

theorem members_remove (key : String) (set : BTreeMap String Unit) :
    members (remove key set).2 = members set \ {key} := by
  ext other
  rw [Finset.mem_sdiff, Finset.mem_singleton, mem_members, mem_members, remove,
    BTreeMap.get?_erase]
  split
  next same => exact iff_of_false nofun fun kept => kept.2 same
  next differs => exact (and_iff_left differs).symm

/-! ## Batches -/

theorem members_countWith_insert (keys : List String) (set : BTreeMap String Unit) :
    members (countWith insert keys set).2 = members set ∪ keys.toFinset := by
  induction keys generalizing set with
  | nil => exact (Finset.union_empty _).symm
  | cons key rest ih =>
      show members (countWith insert rest (insert key set).2).2 = _
      rw [ih, members_insert, List.toFinset_cons, Finset.insert_eq, Finset.union_comm {key},
        Finset.union_assoc]

theorem members_countWith_remove (keys : List String) (set : BTreeMap String Unit) :
    members (countWith remove keys set).2 = members set \ keys.toFinset := by
  induction keys generalizing set with
  | nil => exact Finset.sdiff_empty.symm
  | cons key rest ih =>
      show members (countWith remove rest (remove key set).2).2 = _
      rw [ih, members_remove, List.toFinset_cons, Finset.insert_eq, sdiff_sdiff_left]
      rfl

/-- What is counted is what the set grows by. -/
theorem countWith_insert_card (keys : List String) (set : BTreeMap String Unit) :
    (countWith insert keys set).1 + (members set).card =
      (members (countWith insert keys set).2).card := by
  induction keys generalizing set with
  | nil => exact Nat.zero_add _
  | cons key rest ih =>
      have one : (insert key set).1.toNat + (members set).card =
          (members (insert key set).2).card := by
        rw [members_insert, ← Finset.insert_eq]
        by_cases present : key ∈ members set
        · rw [Finset.insert_eq_self.mpr present]
          rw [mem_members] at present
          simp [insert, present]
        · rw [Finset.card_insert_of_notMem present]
          rw [mem_members] at present
          rw [Bool.not_eq_true, Option.isSome_eq_false_iff] at present
          rw [insert, present, Bool.toNat_true, Nat.add_comm]
      show (insert key set).1.toNat + (countWith insert rest (insert key set).2).1 +
        (members set).card = (members (countWith insert rest (insert key set).2).2).card
      rw [← ih]
      omega

/-- What is counted is what the set shrinks by. -/
theorem countWith_remove_card (keys : List String) (set : BTreeMap String Unit) :
    (countWith remove keys set).1 + (members (countWith remove keys set).2).card =
      (members set).card := by
  induction keys generalizing set with
  | nil => exact Nat.zero_add _
  | cons key rest ih =>
      have one : (remove key set).1.toNat + (members (remove key set).2).card =
          (members set).card := by
        rw [members_remove]
        by_cases present : key ∈ members set
        · have less := Finset.card_sdiff_add_card_inter (members set) {key}
          rw [Finset.inter_singleton_of_mem present, Finset.card_singleton] at less
          rw [mem_members] at present
          simp only [remove, present, Bool.toNat_true]
          omega
        · rw [Finset.sdiff_singleton_eq_erase, Finset.erase_eq_of_notMem present]
          rw [mem_members] at present
          simp [remove, present]
      show (remove key set).1.toNat + (countWith remove rest (remove key set).2).1 +
        (members (countWith remove rest (remove key set).2).2).card = (members set).card
      have others := ih (remove key set).2
      omega

/-! ## Calls -/

/-- The roster of a state. -/
def roster (state : MockState) : Finset String := members state.enrolled

/-- How a call changes the roster, if it does. -/
def rosterChange : HandlerCall → Option (Change String)
  | ⟨.bound .walletWatch, (params : WalletWatchParams)⟩ => some (.enter params.publicKeys)
  | ⟨.bound .walletUnwatch, (params : WalletUnwatchParams)⟩ => some (.strike params.publicKeys)
  | _ => none

variable (fixtures : ControlHandler Id)

/-- What a call does to the roster is the change it stands for. -/
theorem roster_effect (call : HandlerCall) (state : MockState) :
    roster ((node fixtures).effect call state) =
      after (roster state) (rosterChange call).toList := by
  have kept (idle : component call.1 ≠ some .enrolled) :
      roster ((node fixtures).effect call state) = roster state :=
    congrArg members ((effect_agreeBut fixtures state call).enrolled idle)
  rcases call with ⟨H, params⟩
  cases H with
  | chiaPeersList => exact kept nofun
  | bound C =>
      cases C with
      | walletWatch => exact members_countWith_insert _ _
      | walletUnwatch => exact members_countWith_remove _ _
      | _ => exact kept nofun

theorem roster_effects (calls : List HandlerCall) (state : MockState) :
    roster ((node fixtures).effects state calls) =
      after (roster state) (calls.filterMap rosterChange) := by
  induction calls generalizing state with
  | nil => rfl
  | cons call rest ih =>
      rw [effects, List.foldl_cons, ← effects, ih, roster_effect]
      cases change : rosterChange call with
      | none => rw [List.filterMap_cons_none change]; rfl
      | some change' => rw [List.filterMap_cons_some change]; rfl

/-! ## Requests -/

/-- The JSON lists public keys, in either of their spellings, which come to the given
keys. -/
def ListsKeys (json : Json) (keys : List String) : Prop :=
  ∃ texts, (Fields.cons (.plain "public_keys") .nil : Fields DeField [List String]).fromStruct
      .value "" json = .ok (texts, ()) ∧
    Normalizes normalizePublicKey texts keys

/-- The two params types read the same JSON as the same keys. -/
theorem fromValue_publicKeys {S : Type} [PublicKeysParams S] {json : Json} {params : S} :
    fromValue json = .ok params ↔ ListsKeys json (PublicKeysParams.equiv params) := by
  have opened : (fromValue json : Except DeError S) =
      (ShadowStruct.de (S := S)).fromStruct .value ("struct " ++ ShadowStruct.name S) json >>=
        ShadowStruct.check := rfl
  rw [opened, bind_eq_ok]
  constructor
  · rintro ⟨⟨texts, ⟨⟩⟩, read, checked⟩
    refine ⟨texts, Fields.fromStruct_eq_ok_congr.mp read, ?_⟩
    have normal := PublicKeysParams.normalize_eq_ok_iff.mp checked
    rwa [Equiv.apply_symm_apply] at normal
  · rintro ⟨texts, read, normal⟩
    refine ⟨(texts, ()), Fields.fromStruct_eq_ok_congr.mp read, ?_⟩
    apply PublicKeysParams.normalize_eq_ok_iff.mpr
    rwa [Equiv.apply_symm_apply]

/-- The node takes such JSON as the params of either method, and no other. -/
theorem accept_publicKeys {env : Environment} {S : Type} [PublicKeysParams S] {json : Json}
    {params : S} :
    (decode env json >>= SelfValidating.validated) = Except.ok params ↔
      ListsKeys json (PublicKeysParams.equiv params) := by
  rw [SelfValidating.decode_bind_validated, decode_eq_ok_iff, fromValue_publicKeys]

theorem ListsKeys.canonical {json : Json} {keys : List String} (lists : ListsKeys json keys) :
    ∀ key ∈ keys, CanonicalHex publicKeyHexLen key := by
  rcases lists with ⟨_, _, normal⟩
  exact normal.canonical

section Requests

variable {env : Environment} {id : RequestId} {params : Json} {keys : List String}

theorem interpret_watch (lists : ListsKeys params keys) :
    interpret env (.new id ControlMethod.walletWatch.name params) =
      .ok ⟨.bound .walletWatch, (⟨keys⟩ : WalletWatchParams)⟩ := by
  rw [@interpret_catalogued env (.new id ControlMethod.walletWatch.name params)
    (.bound .walletWatch) rfl]
  exact congrArg (Except.map _)
    (@accept_publicKeys env WalletWatchParams _ params ⟨keys⟩ |>.mpr lists)

theorem interpret_unwatch (lists : ListsKeys params keys) :
    interpret env (.new id ControlMethod.walletUnwatch.name params) =
      .ok ⟨.bound .walletUnwatch, (⟨keys⟩ : WalletUnwatchParams)⟩ := by
  rw [@interpret_catalogued env (.new id ControlMethod.walletUnwatch.name params)
    (.bound .walletUnwatch) rfl]
  exact congrArg (Except.map _)
    (@accept_publicKeys env WalletUnwatchParams _ params ⟨keys⟩ |>.mpr lists)

/-- What changes the roster is listed in the params of a request. -/
theorem listsKeys_of_accepted {call : HandlerCall} {change : Change String}
    (accepted : Accepted env call) (changes : rosterChange call = some change) :
    ∃ json, ListsKeys json change.keys := by
  rcases call with ⟨H, given⟩
  rcases accepted with ⟨json, accepted⟩
  cases H with
  | chiaPeersList => cases changes
  | bound C =>
      cases C with
      | walletWatch =>
          cases changes
          exact ⟨json, (@accept_publicKeys env WalletWatchParams _ json given).mp accepted⟩
      | walletUnwatch =>
          cases changes
          exact ⟨json, (@accept_publicKeys env WalletUnwatchParams _ json given).mp accepted⟩
      | _ => cases changes

end Requests

/-! ## Answers -/

section Answers

variable (env : Environment) (fixtures : ControlHandler Id) (state : MockState) (id : RequestId)

/-- The answer to a request to watch tells how many of its keys are new. -/
theorem run_watch {params : Json} {keys : List String} (lists : ListsKeys params keys) :
    (((node fixtures).dispatch env (.new id ControlMethod.walletWatch.name params)).run state).1 =
      .success id (toValue (⟨.ofNat (keys.toFinset \ roster state).card,
        .ofNat (roster state ∪ keys.toFinset).card⟩ : WalletWatchResult)) := by
  have grown := members_countWith_insert keys state.enrolled
  have count : (countWith insert keys state.enrolled).1 =
      (keys.toFinset \ members state.enrolled).card := by
    have added := countWith_insert_card keys state.enrolled
    rw [grown, Finset.union_comm, ← Finset.card_sdiff_add_card] at added
    exact Nat.add_right_cancel added
  have total : (countWith insert keys state.enrolled).2.keys.length =
      (members state.enrolled ∪ keys.toFinset).card := by
    rw [length_keys, grown]
  rw [run_dispatch _ (interpret_watch lists), roster, ← count, ← total]
  rfl

/-- The answer to a request to unwatch tells how many of its keys were watched. -/
theorem run_unwatch {params : Json} {keys : List String} (lists : ListsKeys params keys) :
    (((node fixtures).dispatch env (.new id ControlMethod.walletUnwatch.name params)).run
        state).1 =
      .success id (toValue (⟨.ofNat (roster state ∩ keys.toFinset).card,
        .ofNat (roster state \ keys.toFinset).card⟩ : WalletUnwatchResult)) := by
  have shrunk := members_countWith_remove keys state.enrolled
  have count : (countWith remove keys state.enrolled).1 =
      (members state.enrolled ∩ keys.toFinset).card := by
    have removed := countWith_remove_card keys state.enrolled
    rw [shrunk, ← Finset.card_inter_add_card_sdiff (members state.enrolled) keys.toFinset]
      at removed
    exact Nat.add_right_cancel removed
  have total : (countWith remove keys state.enrolled).2.keys.length =
      (members state.enrolled \ keys.toFinset).card := by
    rw [length_keys, shrunk]
  rw [run_dispatch _ (interpret_unwatch lists), roster, ← count, ← total]
  rfl

theorem roster_watch {params : Json} {keys : List String} (lists : ListsKeys params keys) :
    roster (((node fixtures).dispatch env (.new id ControlMethod.walletWatch.name params)).run
      state).2 = roster state ∪ keys.toFinset := by
  rw [run_dispatch _ (interpret_watch lists)]
  exact members_countWith_insert keys state.enrolled

theorem roster_unwatch {params : Json} {keys : List String} (lists : ListsKeys params keys) :
    roster (((node fixtures).dispatch env (.new id ControlMethod.walletUnwatch.name params)).run
      state).2 = roster state \ keys.toFinset := by
  rw [run_dispatch _ (interpret_unwatch lists)]
  exact members_countWith_remove keys state.enrolled

/-- Params that list no keys are refused by both methods. -/
theorem run_unlisted {C : CallType} (about : C = .walletWatch ∨ C = .walletUnwatch) {params : Json}
    (unlisted : ∀ keys, ¬ListsKeys params keys) :
    ∃ error, ((node fixtures).dispatch env (.new id C.method.name params)).run state =
      (.failure id error, state) := by
  have unaccepted : ∀ given, C.accept env params ≠ .ok given := by
    intro given accepted
    rcases about with rfl | rfl
    · exact unlisted _ ((@accept_publicKeys env WalletWatchParams _ params given).mp accepted)
    · exact unlisted _ ((@accept_publicKeys env WalletUnwatchParams _ params given).mp accepted)
  rcases @interpret_unaccepted env (.new id C.method.name params) (.bound C) rfl unaccepted with
    ⟨error, refused⟩
  exact ⟨error, by rw [dispatch_of_error _ refused]; rfl⟩

/-- The answer to a request for the watched keys lists each of them once, in order. -/
theorem run_watched :
    ∃ keys : List String,
      (((node fixtures).dispatch env (buildRequest id (⟨⟩ : WalletWatchedParams))).run state).1 =
          .success id (toValue (⟨keys⟩ : WalletWatchedResult)) ∧
        keys.Pairwise (· < ·) ∧ ∀ key, key ∈ keys ↔ key ∈ roster state := by
  refine ⟨state.enrolled.keys, ?_, keys_sorted _, fun key => List.mem_toFinset.symm⟩
  have found : interpret env (buildRequest id (⟨⟩ : WalletWatchedParams)) =
      .ok ⟨.bound .walletWatched, ⟨⟩⟩ :=
    interpret_buildRequest (C := .walletWatched) id rfl
  rw [run_dispatch _ found]
  rfl

end Answers

/-! ## Runs -/

/-- After any requests, the node watches a key exactly if the last accepted request to watch
or unwatch it was one to watch it, or if it did so before and no request named the key; all
keys it has come to watch are in canonical form; and its answers tell of these keys. -/
theorem enrolment_last_writer (env : Environment) (fixtures : ControlHandler Id)
    (start : MockState) (requests : List JsonRpcRequest) :
    let final := ((serveAll env (node fixtures) requests).run start).2
    let changes := (requests.flatMap (callsOf env)).filterMap rosterChange
    (∀ key, key ∈ roster final ↔
        (verdict key changes).getD (decide (key ∈ roster start)) = true) ∧
      (∀ key ∈ roster final, key ∈ roster start ∨ CanonicalHex publicKeyHexLen key) ∧
      (∀ id, ∃ keys : List String,
        (((node fixtures).dispatch env (buildRequest id (⟨⟩ : WalletWatchedParams))).run
            final).1 = .success id (toValue (⟨keys⟩ : WalletWatchedResult)) ∧
          keys.Pairwise (· < ·) ∧ ∀ key, key ∈ keys ↔ key ∈ roster final) ∧
      ∀ id params keys, ListsKeys params keys →
        (((node fixtures).dispatch env (.new id ControlMethod.walletWatch.name params)).run
            final).1 = .success id (toValue (⟨.ofNat (keys.toFinset \ roster final).card,
              .ofNat (roster final ∪ keys.toFinset).card⟩ : WalletWatchResult)) ∧
          (((node fixtures).dispatch env (.new id ControlMethod.walletUnwatch.name params)).run
            final).1 = .success id (toValue (⟨.ofNat (roster final ∩ keys.toFinset).card,
              .ofNat (roster final \ keys.toFinset).card⟩ : WalletUnwatchResult)) := by
  intro final changes
  have ends : roster final = after (roster start) changes := by
    rw [← roster_effects fixtures, ← serveAll_effects]
  refine ⟨?_, ?_, run_watched env fixtures final, ?_⟩
  · intro key
    rw [ends, mem_after_iff]
  · intro key listed
    rw [ends] at listed
    rcases exists_named_of_mem listed with before | ⟨change, member, named⟩
    · exact .inl before
    · rcases List.mem_filterMap.mp member with ⟨call, made, changed⟩
      rcases listsKeys_of_accepted (accepted_of_mem call made) changed with ⟨_, lists⟩
      exact .inr (lists.canonical key named)
  · intro id params keys lists
    exact ⟨run_watch env fixtures final id lists, run_unwatch env fixtures final id lists⟩

/-- Params are accepted by both methods or by neither.  In the first case, to send them to
unwatch after they were sent to watch leaves what was watched besides their keys; in the
second neither request has an effect. -/
theorem enrolment_reversible (env : Environment) (fixtures : ControlHandler Id)
    (start : MockState) (id other : RequestId) (params : Json) :
    let watched := ((node fixtures).dispatch env
      (.new id ControlMethod.walletWatch.name params)).run start
    let unwatched := ((node fixtures).dispatch env
      (.new other ControlMethod.walletUnwatch.name params)).run watched.2
    (∃ keys, ListsKeys params keys ∧ watched.1.error = none ∧ unwatched.1.error = none ∧
        roster watched.2 = roster start ∪ keys.toFinset ∧
        roster unwatched.2 = roster start \ keys.toFinset) ∨
      ((∀ keys, ¬ListsKeys params keys) ∧ watched.1.error.isSome = true ∧
        unwatched.1.error.isSome = true ∧ watched.2 = start ∧ unwatched.2 = start) := by
  intro watched unwatched
  by_cases listed : ∃ keys, ListsKeys params keys
  · rcases listed with ⟨keys, lists⟩
    have entered : roster watched.2 = roster start ∪ keys.toFinset :=
      roster_watch env fixtures start id lists
    refine .inl ⟨keys, lists, ?_, ?_, entered, ?_⟩
    · exact congrArg JsonRpcResponse.error (run_watch env fixtures start id lists)
    · exact congrArg JsonRpcResponse.error (run_unwatch env fixtures watched.2 other lists)
    · rw [show roster unwatched.2 = _ from roster_unwatch env fixtures watched.2 other lists,
        entered]
      exact Change.strike_enter keys
  · rw [not_exists] at listed
    rcases run_unlisted env fixtures start id (C := .walletWatch) (.inl rfl) listed with
      ⟨first, idle⟩
    have stays : watched = (.failure id first, start) := idle
    rcases run_unlisted env fixtures start other (C := .walletUnwatch) (.inr rfl) listed with
      ⟨second, idleAgain⟩
    have staysAgain : unwatched = (.failure other second, start) := by
      rw [← idleAgain]
      show ((node fixtures).dispatch env _).run watched.2 = _
      rw [stays]
      rfl
    refine .inr ⟨listed, ?_, ?_, ?_, ?_⟩
    · rw [stays]; rfl
    · rw [staysAgain]; rfl
    · rw [stays]
    · rw [staysAgain]

end MockNode

end ControlInterface
