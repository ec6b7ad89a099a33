import ControlInterface.Catalog.Walks
import ControlInterface.Reference.Pages
import ControlInterface.Results.Outcome

/-!
# Pages of the spend record

The reference node reads its record of automated spends by filter, then by cursor, then by
page.  The record grows at its front and its rows are revised while a client walks it.  The
walk still serves spends of the record as it was, in their order and each once, and as long
as no status changes that is asked for, those that matched at its first request.
-/

namespace ControlInterface

open Serde ControlHandler Text PageSource Paging

namespace MockNode

/-! ## The handler method -/

/-- Entries of the record that cannot be read. -/
def auditUnreadable : UInt32 := 2

/-- Keep the rows that a filter lets through, if there is one. -/
def retain {α : Type} (wanted : Option α) (keeps : α → AutomatedSpend → Bool)
    (rows : List AutomatedSpend) : List AutomatedSpend :=
  match wanted with
  | some wanted => rows.filter (keeps wanted)
  | none => rows

/-- The rows that pass the filters; the store that may be asked for is not looked at. -/
def matching (params : SpendsListParams) (rows : List AutomatedSpend) : List AutomatedSpend :=
  let rows := retain params.status (fun status row => row.status.token == status) rows
  let rows := retain params.kind (fun kind row => row.kind == kind) rows
  let rows := retain params.sinceMs (fun since row => decide (since ≤ row.initiatedMs)) rows
  retain params.untilMs (fun bound row => decide (row.initiatedMs < bound)) rows

/-- A page of a record. -/
def auditPage (record : List AutomatedSpend) (params : SpendsListParams) : SpendsListResult :=
  let rows := remaining AutomatedSpend.id params.afterId (matching params record)
  let limit := params.effectiveLimit.toNat
  let complete := decide (rows.length ≤ limit)
  let spends := rows.take limit
  { spends
    complete
    cursor := spends.getLast?.map AutomatedSpend.id
    unreadableLines := auditUnreadable }

/-! ## The record -/

/-- The order of the record: the newest first, and by id where the time is the same. -/
def Precedes (left right : AutomatedSpend) : Prop :=
  right.initiatedMs < left.initiatedMs ∨
    right.initiatedMs = left.initiatedMs ∧ compareText left.id right.id = .lt

instance (left right : AutomatedSpend) : Decidable (Precedes left right) :=
  inferInstanceAs (Decidable (_ ∨ _))

/-- A record of spends, in its order. -/
structure SpendRecord where
  rows : List AutomatedSpend
  ordered : rows.Pairwise Precedes
  distinct : (rows.map AutomatedSpend.id).Nodup

def auditBaseMs : UInt64 := 1700000000000

def auditFailureReason : String := "no chain source could be reached"

/-- A spend of the reference node. -/
def auditSpend (id : String) (initiatedMs : UInt64) (status : SpendOutcome)
    (chainReference : Option SpendChainReference) : AutomatedSpend where
  id
  revision := 2
  kind := "mirror-coin"
  purpose := "renew the mirror advertising this store"
  authority := ⟨"node", "auto_mirror_renewal"⟩
  asset := .xch
  amountMojos := "9007199254740993"
  feeMojos := "1000"
  storeId := some (repeated "aa")
  initiatedMs
  updatedMs := initiatedMs + 10
  status
  fundingCoinIds := [spentCoin]
  chainReference

/-- The record of the reference node. -/
def auditFixture : SpendRecord where
  rows := [
    auditSpend "sp_confirmed" (auditBaseMs + 400) (.confirmed 9172077 (repeated "1a"))
      (some ⟨repeated "1a", true⟩),
    auditSpend "sp_broadcast" (auditBaseMs + 300) (.failed .broadcast auditFailureReason)
      (some ⟨repeated "2b", false⟩),
    auditSpend "sp_signing" (auditBaseMs + 200) (.failed .signing auditFailureReason) none,
    auditSpend "sp_unresolved" (auditBaseMs + 100)
      (.unresolved "the node restarted while the spend was in flight")
      (some ⟨repeated "3c", false⟩)]
  ordered := by decide +kernel
  distinct := by decide +kernel

/-- The node that has the record. -/
def withRecord (fixtures : ControlHandler Id) (record : SpendRecord) : ControlHandler Id :=
  { fixtures with spendsList := fun params => pure (auditPage record.rows params) }

/-! ## Filters -/

/-- The row passes the filters on status, kind and time.  Like the handler method, this does
not look at the store that may be asked for. -/
def passes (params : SpendsListParams) (row : AutomatedSpend) : Bool :=
  params.status.all (row.status.token == ·) && params.kind.all (row.kind == ·) &&
    params.sinceMs.all (fun since => decide (since ≤ row.initiatedMs)) &&
    params.untilMs.all (fun bound => decide (row.initiatedMs < bound))

theorem retain_eq_filter {α : Type} (wanted : Option α) (keeps : α → AutomatedSpend → Bool)
    (rows : List AutomatedSpend) :
    retain wanted keeps rows = rows.filter fun row => wanted.all (keeps · row) := by
  cases wanted with
  | some wanted => rfl
  | none => exact (List.filter_eq_self.mpr fun _ _ => rfl).symm

theorem matching_eq_filter (params : SpendsListParams) (rows : List AutomatedSpend) :
    matching params rows = rows.filter (passes params) := by
  simp only [matching, retain_eq_filter, List.filter_filter]
  apply List.filter_congr
  intro row _
  simp only [passes]
  ac_rfl

/-- Filters whose page size is accepted. -/
abbrev SpendFilters := { params : SpendsListParams // LimitWithin spendsListMaxLimit params.limit }

/-- The paged read of the spends that pass the filters. -/
def spendsRead (filters : SpendFilters) : PagedRead .spendsList String AutomatedSpend where
  ask cursor := ({ filters.1 with afterId := cursor } : SpendsListParams)
  rows result := SpendsListResult.spends result
  complete result := SpendsListResult.complete result
  cursor result := SpendsListResult.cursor result

section Walks

variable (env : Environment) (fixtures : ControlHandler Id) (filters : SpendFilters)
  (record : SpendRecord)

/-- The page size in force. -/
def spendsSize : Nat := filters.1.effectiveLimit.toNat

theorem spendsSize_pos : 0 < spendsSize filters :=
  UInt32.le_iff_toNat_le.mp (filters.2.getD (show 1 ≤ spendsListDefaultLimit ∧ _ by decide)).1

/-- The node serves the spends that pass by their position. -/
theorem record_serves : (spendsRead filters).Serves env (fun _ => True) AutomatedSpend.id
    (withRecord fixtures record)
    (byPosition AutomatedSpend.id (spendsSize filters) (matching filters.1 record.rows)) := by
  constructor
  case valid =>
    intro cursor _
    exact SpendsListParams.validated_eq_ok_iff.mpr ⟨filters.2, rfl⟩
  case served =>
    intro cursor _
    refine ⟨auditPage record.rows { filters.1 with afterId := cursor }, rfl,
      NeverNull.toValue_ne_null (α := SpendsListResult) _, rfl, rfl⟩
  case known =>
    intro _ _ _
    trivial

/-- The requests of a walk, each of them answered from the record there is by then. -/
def audited (fixtures : ControlHandler Id) (requests : List (RequestId × SpendRecord)) :
    List (RequestId × ControlHandler Id) :=
  requests.map fun (id, record) => (id, withRecord fixtures record)

/-- The spends that pass the filters, as they are at each request. -/
def passing (requests : List (RequestId × SpendRecord)) : List (List AutomatedSpend) :=
  requests.map fun request => matching filters.1 request.2.rows

theorem forall_passing {requests : List (RequestId × SpendRecord)}
    {holds : List AutomatedSpend → Prop} :
    (∀ rows ∈ passing filters requests, holds rows) ↔
      ∀ request ∈ requests, holds (matching filters.1 request.2.rows) :=
  List.forall_mem_map

variable (requests : List (RequestId × SpendRecord))

theorem audited_serves : List.Forall₂
    (fun node source => (spendsRead filters).Serves env (fun _ => True) AutomatedSpend.id node.2
      source)
    (audited fixtures requests)
    ((passing filters requests).map (byPosition AutomatedSpend.id (spendsSize filters))) := by
  rw [audited, passing, List.map_map, List.forall₂_map_left_iff, List.forall₂_map_right_iff]
  exact List.forall₂_same.mpr fun (_, record) _ => record_serves env fixtures filters record

/-- What a client reads is a walk over the spends that pass by their position. -/
theorem pages_audited :
    ((spendsRead filters).walk env none (audited fixtures requests)).map (spendsRead filters).page =
      PageSource.walk AutomatedSpend.id none
        ((passing filters requests).map (byPosition AutomatedSpend.id (spendsSize filters))) :=
  PagedRead.walk_eq (audited_serves env fixtures filters requests) fun _ _ => trivial

theorem walk_audited :
    let results := (spendsRead filters).walk env none (audited fixtures requests)
    let pages := PageSource.walk AutomatedSpend.id none
      ((passing filters requests).map (byPosition AutomatedSpend.id (spendsSize filters)))
    results.flatMap SpendsListResult.spends = rowsOf pages ∧
      results.any SpendsListResult.complete = ends pages := by
  constructor
  · rw [← pages_audited env fixtures, PagedRead.rowsOf_map_page]
    rfl
  · rw [← pages_audited env fixtures, PagedRead.ends_map_page]
    rfl

/-- Every spend that is served passes the filters. -/
theorem passes_of_audited : ∀ result ∈ (spendsRead filters).walk env none
    (audited fixtures requests), ∀ spend ∈ SpendsListResult.spends result,
      passes filters.1 spend = true := by
  have known : ∀ last ∈ (none : Option String), (fun _ : String => True) last := nofun
  intro result member spend inside
  rcases PagedRead.exists_served (audited_serves env fixtures filters requests) known result
    member with ⟨node, isAsked, position, served⟩
  rcases List.mem_map.mp isAsked with ⟨⟨_, record⟩, _, rfl⟩
  cases served
  have isRow : spend ∈ matching filters.1 record.rows :=
    mem_of_mem_remaining (List.mem_of_mem_take inside)
  rw [matching_eq_filter, List.mem_filter] at isRow
  exact isRow.2

end Walks

/-! ## A record that grows -/

/-- A later revision of a spend: its outcome may be another one, and what is known of it. -/
structure Revises (old new : AutomatedSpend) : Prop where
  id : new.id = old.id
  kind : new.kind = old.kind
  initiatedMs : new.initiatedMs = old.initiatedMs

/-- The record has grown since the first one by fresh rows at its front, while the others
were revised.  A revision may change the status, and so what a status filter lets through. -/
def Grown (first record : SpendRecord) (fresh : List AutomatedSpend) : Prop :=
  ∃ revised, List.Forall₂ Revises first.rows revised ∧ record.rows = fresh ++ revised

/-- If the filters ask for a status, no spend of the first record has another one by now. -/
def Settled (params : SpendsListParams) (first record : SpendRecord) : Prop :=
  params.status.isSome = true → ∀ old ∈ first.rows, ∀ new ∈ record.rows, new.id = old.id →
    new.status.token = old.status.token

theorem token_of_passes {params : SpendsListParams} {row : AutomatedSpend}
    (passed : passes params row = true) {state : String} (wanted : state ∈ params.status) :
    row.status.token = state := by
  rw [passes, Option.mem_def.mp wanted] at passed
  simp only [Option.all_some, Bool.and_eq_true, beq_iff_eq] at passed
  exact passed.1.1.1

section Growth

variable {params : SpendsListParams} {first record : SpendRecord} {fresh : List AutomatedSpend}

theorem passes_of_revises {old new : AutomatedSpend} (revises : Revises old new)
    (settled : params.status.isSome = true → new.status.token = old.status.token) :
    passes params new = passes params old := by
  have status : params.status.all (new.status.token == ·) =
      params.status.all (old.status.token == ·) := by
    cases wanted : params.status with
    | none => rfl
    | some state => rw [settled (by rw [wanted, Option.isSome_some])]
  rw [passes, passes, status, revises.kind, revises.initiatedMs]

theorem ids_of_revises {rows revised : List AutomatedSpend}
    (revises : List.Forall₂ Revises rows revised) :
    revised.map AutomatedSpend.id = rows.map AutomatedSpend.id := by
  induction revises with
  | nil => rfl
  | cons head _ ih => rw [List.map_cons, List.map_cons, head.id, ih]

/-- Revisions that leave the status alone pass where the rows did. -/
theorem matching_ids_of_settled {rows revised : List AutomatedSpend}
    (revises : List.Forall₂ Revises rows revised)
    (settled : params.status.isSome = true → ∀ old ∈ rows, ∀ new ∈ revised, new.id = old.id →
      new.status.token = old.status.token) :
    (matching params revised).map AutomatedSpend.id =
      (matching params rows).map AutomatedSpend.id := by
  rw [matching_eq_filter, matching_eq_filter]
  induction revises with
  | nil => rfl
  | cons head _ ih =>
      have same := passes_of_revises head fun asked =>
        settled asked _ List.mem_cons_self _ List.mem_cons_self head.id
      have others := ih fun asked old isOld new isNew =>
        settled asked old (List.mem_cons_of_mem _ isOld) new (List.mem_cons_of_mem _ isNew)
      rw [List.filter_cons, List.filter_cons, same]
      split
      · rw [List.map_cons, List.map_cons, head.id, others]
      · exact others

theorem Grown.ids (grown : Grown first record fresh) :
    record.rows.map AutomatedSpend.id =
      fresh.map AutomatedSpend.id ++ first.rows.map AutomatedSpend.id := by
  rcases grown with ⟨revised, revises, split⟩
  rw [split, List.map_append, ids_of_revises revises]

/-- A record that stays the same has grown by nothing. -/
theorem Grown.refl (record : SpendRecord) : Grown record record [] :=
  ⟨record.rows, List.forall₂_same.mpr fun _ _ => ⟨rfl, rfl, rfl⟩, rfl⟩

theorem Grown.ids_of_settled (grown : Grown first record fresh)
    (settled : Settled params first record) :
    (matching params record.rows).map AutomatedSpend.id =
      (fresh.filter (passes params)).map AutomatedSpend.id ++
        (matching params first.rows).map AutomatedSpend.id := by
  rcases grown with ⟨revised, revises, split⟩
  have same : (matching params revised).map AutomatedSpend.id =
      (matching params first.rows).map AutomatedSpend.id :=
    matching_ids_of_settled revises fun asked old isOld new isNew =>
      settled asked old isOld new (split ▸ List.mem_append_right _ isNew)
  rw [← same, split, matching_eq_filter, matching_eq_filter, List.filter_append, List.map_append]

theorem matching_sublist (params : SpendsListParams) (record : SpendRecord) :
    ((matching params record.rows).map AutomatedSpend.id).Sublist
      (record.rows.map AutomatedSpend.id) := by
  rw [matching_eq_filter]
  exact List.filter_sublist.map _

theorem matching_distinct (params : SpendsListParams) (record : SpendRecord) :
    ((matching params record.rows).map AutomatedSpend.id).Nodup :=
  record.distinct.sublist (matching_sublist params record)

theorem Grown.endsWith (grown : Grown first record fresh)
    (settled : Settled params first record) :
    EndsWith AutomatedSpend.id ((matching params first.rows).map AutomatedSpend.id)
      (matching params record.rows) :=
  ⟨matching_distinct params record, _, (grown.ids_of_settled settled).symm⟩

/-- Whatever the revisions, the spends that pass are behind the fresh ones in the order they
were in. -/
theorem Grown.recalls (grown : Grown first record fresh) :
    Recalls AutomatedSpend.id (first.rows.map AutomatedSpend.id)
      (matching params record.rows) := by
  have distinct := record.distinct
  rw [grown.ids] at distinct
  rcases grown with ⟨revised, revises, split⟩
  refine ⟨(fresh.filter (passes params)).map AutomatedSpend.id,
    (revised.filter (passes params)).map AutomatedSpend.id, ?_, ?_, ?_⟩
  · rw [matching_eq_filter, split, List.filter_append, List.map_append]
  · rw [← ids_of_revises revises]
    exact List.filter_sublist.map _
  · intro id isFresh old
    have member := (List.filter_sublist.map AutomatedSpend.id).subset isFresh
    exact (List.nodup_append.mp distinct).2.2 id member id old rfl

end Growth

/-- After a spend that does not pass, no page has rows. -/
theorem auditPage_lost {params : SpendsListParams} (record : SpendRecord) {last : String}
    (absent : last ∉ (matching params record.rows).map AutomatedSpend.id) :
    auditPage record.rows { params with afterId := some last } =
      ⟨[], true, none, auditUnreadable⟩ := by
  have same : matching { params with afterId := some last } record.rows =
      matching params record.rows := rfl
  simp only [auditPage, same, remaining_of_notMem absent, List.take_nil, List.length_nil,
    Nat.zero_le, decide_true, List.getLast?_nil, Option.map_none]

/-- A client that walks the record while spends are made and revised has served to it spends
of the record as it was at the first request, in their order and each once, and the walk ends
within as many requests as these take pages.  If the spend that each page ends with still
passes at the next request, every spend that passes at each request is served by the end.  If
no revision changes a status that is asked for, the spends that passed at the first request
are served and no others.  Whatever happens to the record, every spend that is served passes
the filters, with the state asked for in its text; and the page after a spend that does not
pass is empty and calls itself complete. -/
theorem spends_walk (env : Environment) (fixtures : ControlHandler Id) (filters : SpendFilters) :
    (∀ (id : RequestId) (first : SpendRecord) (later : List (RequestId × SpendRecord)),
      (∀ request ∈ later, ∃ fresh, Grown first request.2 fresh) →
        let results := (spendsRead filters).walk env none
          (audited fixtures ((id, first) :: later))
        let served := (results.flatMap SpendsListResult.spends).map AutomatedSpend.id
        let passed := (matching filters.1 first.rows).map AutomatedSpend.id
        served.Sublist (first.rows.map AutomatedSpend.id) ∧
          (first.rows.length ≤ (later.length + 1) * spendsSize filters →
            results.any SpendsListResult.complete = true) ∧
          (KeepsPlace AutomatedSpend.id (results.map (spendsRead filters).page)
              (passing filters later) →
            results.any SpendsListResult.complete = true →
              ∀ spend ∈ passed,
                (∀ rows ∈ passing filters later, spend ∈ rows.map AutomatedSpend.id) →
                  spend ∈ served) ∧
          ((∀ request ∈ later, Settled filters.1 first request.2) →
            served <+: passed ∧
              (results.any SpendsListResult.complete = true → served = passed) ∧
              (passed.length ≤ (later.length + 1) * spendsSize filters →
                results.any SpendsListResult.complete = true))) ∧
    (∀ requests : List (RequestId × SpendRecord),
      ∀ result ∈ (spendsRead filters).walk env none (audited fixtures requests),
        ∀ spend ∈ SpendsListResult.spends result, passes filters.1 spend = true ∧
          ∀ state ∈ filters.1.status, SpendOutcome.GivesState (toValue spend.status) state) ∧
    ∀ (record : SpendRecord) (last : String),
      last ∉ (matching filters.1 record.rows).map AutomatedSpend.id →
        auditPage record.rows { filters.1 with afterId := some last } =
          ⟨[], true, none, auditUnreadable⟩ := by
  refine ⟨?_, ?_, ?_⟩
  · intro id first later grown
    have positive := spendsSize_pos filters
    rcases walk_audited env fixtures filters ((id, first) :: later) with ⟨rows, ended⟩
    simp only [rows, ended, pages_audited, List.length_map]
    have distinct : ∀ rows ∈ passing filters later, (rows.map AutomatedSpend.id).Nodup :=
      (forall_passing filters).mpr fun request _ => matching_distinct filters.1 request.2
    have recalls : ∀ rows ∈ passing filters later,
        Recalls AutomatedSpend.id (first.rows.map AutomatedSpend.id) rows := by
      refine (forall_passing filters).mpr fun request isRequest => ?_
      rcases grown request isRequest with ⟨fresh, isGrown⟩
      exact isGrown.recalls
    rcases walk_recalled positive first.distinct (matching_sublist filters.1 first) distinct
      recalls with ⟨inOrder, halts, every⟩
    rw [passing, List.length_map, List.length_map] at halts
    refine ⟨inOrder, halts, every, fun settled => ?_⟩
    have suffixes : ∀ rows ∈ passing filters later, EndsWith AutomatedSpend.id
        ((matching filters.1 first.rows).map AutomatedSpend.id) rows := by
      refine (forall_passing filters).mpr fun request isRequest => ?_
      rcases grown request isRequest with ⟨fresh, isGrown⟩
      exact isGrown.endsWith (settled request isRequest)
    have walked := walk_grown positive (matching_distinct filters.1 first) suffixes
    rw [passing, List.length_map] at walked
    exact walked
  · intro requests result member spend inside
    have passed := passes_of_audited env fixtures filters requests result member spend inside
    refine ⟨passed, fun state wanted => ?_⟩
    have told := SpendOutcome.givesState_iff (LawfulSerde.fromSource_toValue .value spend.status)
    exact (told state).mpr (token_of_passes passed wanted)
  · intro record last absent
    exact auditPage_lost record absent

/-- The record of the reference node after one more spend, and with the end of an unresolved
one. -/
def auditGrown : SpendRecord where
  rows := [
    auditSpend "sp_renewed" (auditBaseMs + 500) (.failed .signing auditFailureReason) none,
    auditSpend "sp_confirmed" (auditBaseMs + 400) (.confirmed 9172077 (repeated "1a"))
      (some ⟨repeated "1a", true⟩),
    auditSpend "sp_broadcast" (auditBaseMs + 300) (.failed .broadcast auditFailureReason)
      (some ⟨repeated "2b", false⟩),
    auditSpend "sp_signing" (auditBaseMs + 200) (.failed .signing auditFailureReason) none,
    auditSpend "sp_unresolved" (auditBaseMs + 100) (.failed .confirmation auditFailureReason)
      (some ⟨repeated "3c", false⟩)]
  ordered := by decide +kernel
  distinct := by decide +kernel

theorem grown_auditGrown : Grown auditFixture auditGrown
    [auditSpend "sp_renewed" (auditBaseMs + 500) (.failed .signing auditFailureReason) none] := by
  refine ⟨auditGrown.rows.tail, ?_, rfl⟩
  exact .cons ⟨rfl, rfl, rfl⟩ <| .cons ⟨rfl, rfl, rfl⟩ <| .cons ⟨rfl, rfl, rfl⟩ <|
    .cons ⟨rfl, rfl, rfl⟩ .nil

/-- The spends with a status, or all of them, one on each page. -/
def oneByOne (status : Option String) : SpendFilters := ⟨
  { status, storeId := none, kind := none, sinceMs := none, untilMs := none, afterId := none,
    limit := some 1 }, by rintro _ ⟨⟩; decide⟩

/-- A walk during which one spend is made and another one fails. -/
theorem spends_walk_auditGrown :
    let filters := oneByOne (some "failed")
    let later : List (RequestId × SpendRecord) :=
      [(.number 2, auditGrown), (.number 3, auditGrown), (.number 4, auditGrown)]
    let results := (spendsRead filters).walk plainText none
      (audited idleNode ((.number 1, auditFixture) :: later))
    let served := (results.flatMap SpendsListResult.spends).map AutomatedSpend.id
    served.Sublist ["sp_confirmed", "sp_broadcast", "sp_signing", "sp_unresolved"] ∧
      results.any SpendsListResult.complete = true ∧
      "sp_broadcast" ∈ served ∧ "sp_signing" ∈ served := by
  intro filters later results served
  have grown : ∀ request ∈ later, ∃ fresh, Grown auditFixture request.2 fresh := by
    intro request member
    have same : request.2 = auditGrown := by
      rcases List.mem_cons.mp member with rfl | member
      · rfl
      · rcases List.mem_pair.mp member with rfl | rfl <;> rfl
    exact ⟨_, same ▸ grown_auditGrown⟩
  rcases (spends_walk plainText idleNode filters).1 (.number 1) auditFixture later grown with
    ⟨inOrder, halts, every, -⟩
  have ended := halts (by decide)
  have keepsPlace : KeepsPlace AutomatedSpend.id (results.map (spendsRead filters).page)
      (passing filters later) := by
    rw [pages_audited, KeepsPlace]
    decide +kernel
  exact ⟨inOrder, ended, every keepsPlace ended _ (by decide +kernel) (by decide +kernel),
    every keepsPlace ended _ (by decide +kernel) (by decide +kernel)⟩

/-! ## Periods -/

/-- Rows that pass one of two filters, where those of the first come before those of the
second. -/
theorem filter_or_eq_append {α : Type} {early late : α → Bool} {rows : List α}
    (apart : ∀ row ∈ rows, ¬(early row = true ∧ late row = true))
    (ordered : rows.Pairwise fun left right => ¬(late left = true ∧ early right = true)) :
    rows.filter (fun row => early row || late row) = rows.filter early ++ rows.filter late := by
  induction rows with
  | nil => rfl
  | cons row others ih =>
      rcases List.pairwise_cons.mp ordered with ⟨before, ordered⟩
      rw [List.forall_mem_cons] at apart
      have rest := ih apart.2 ordered
      simp only [List.filter_cons]
      cases isLate : late row with
      | false =>
          cases isEarly : early row with
          | true => simpa using rest
          | false => simpa using rest
      | true =>
          have notEarly : early row = false := by
            simpa [isLate] using apart.1
          have none : others.filter early = [] := by
            rw [List.filter_eq_nil_iff]
            intro other member isEarly
            exact before other member ⟨isLate, isEarly⟩
          rw [none, List.nil_append] at rest
          simp [notEarly, none, rest]

/-- The filters with another period. -/
def within (filters : SpendFilters) (period : UInt64 × UInt64) : SpendFilters :=
  ⟨{ filters.1 with sinceMs := some period.1, untilMs := some period.2 }, filters.2⟩

/-- The periods between bounds, the newest first; each begins where the next one ends. -/
def periods (newest : UInt64) : List UInt64 → List (UInt64 × UInt64)
  | [] => []
  | since :: earlier => (since, newest) :: periods since earlier

/-- The row passes the filters but for the period. -/
def passesBeside (filters : SpendFilters) (row : AutomatedSpend) : Bool :=
  filters.1.status.all (row.status.token == ·) && filters.1.kind.all (row.kind == ·)

theorem passes_within (filters : SpendFilters) (since bound : UInt64) (row : AutomatedSpend) :
    passes (within filters (since, bound)).1 row = true ↔
      passesBeside filters row = true ∧ since.toNat ≤ row.initiatedMs.toNat ∧
        row.initiatedMs.toNat < bound.toNat := by
  simp only [passes, within, passesBeside, Option.all_some, Bool.and_eq_true, decide_eq_true_eq,
    UInt64.le_iff_toNat_le, UInt64.lt_iff_toNat_lt, and_assoc]

/-- Two periods that meet are one. -/
theorem matching_append (filters : SpendFilters) (record : SpendRecord) {since middle bound : UInt64}
    (after : since ≤ middle) (before : middle ≤ bound) :
    matching (within filters (middle, bound)).1 record.rows ++
        matching (within filters (since, middle)).1 record.rows =
      matching (within filters (since, bound)).1 record.rows := by
  rw [UInt64.le_iff_toNat_le] at after before
  rw [matching_eq_filter, matching_eq_filter, matching_eq_filter, ← filter_or_eq_append]
  · apply List.filter_congr
    intro row _
    rw [Bool.eq_iff_iff, Bool.or_eq_true, passes_within, passes_within, passes_within,
      ← and_or_left]
    apply and_congr_right
    omega
  · intro row _
    rw [passes_within, passes_within]
    omega
  · apply record.ordered.imp
    intro left right precedes
    rw [Precedes, UInt64.lt_iff_toNat_lt, ← UInt64.toNat_inj] at precedes
    rw [passes_within, passes_within]
    omega

/-- The periods make up the time between their outermost bounds. -/
theorem matching_periods (filters : SpendFilters) (record : SpendRecord) {newest : UInt64}
    {sinces : List UInt64} (descending : (newest :: sinces).Pairwise (· ≥ ·)) :
    ((periods newest sinces).flatMap fun period =>
        matching (within filters period).1 record.rows) =
      matching (within filters (sinces.getLastD newest, newest)).1 record.rows := by
  induction sinces generalizing newest with
  | nil =>
      rw [periods, List.flatMap_nil, matching_eq_filter, eq_comm, List.filter_eq_nil_iff]
      intro row _
      rw [passes_within, List.getLastD_nil]
      omega
  | cons since earlier ih =>
      rcases List.pairwise_cons.mp descending with ⟨before, descending⟩
      have after : earlier.getLastD since ≤ since := by
        have isLast : earlier.getLastD since ∈ since :: earlier := List.getLastD_mem_cons
        rcases List.mem_cons.mp isLast with same | member
        · rw [same]
          exact UInt64.le_refl since
        · exact (List.pairwise_cons.mp descending).1 _ member
      rw [periods, List.flatMap_cons, ih descending, List.getLastD_cons,
        matching_append filters record after (before since List.mem_cons_self)]

theorem bound_le_of_mem_periods {newest : UInt64} {sinces : List UInt64}
    (descending : (newest :: sinces).Pairwise (· ≥ ·)) :
    ∀ period ∈ periods newest sinces, period.2 ≤ newest := by
  induction sinces generalizing newest with
  | nil => exact nofun
  | cons since earlier ih =>
      rcases List.pairwise_cons.mp descending with ⟨before, descending⟩
      intro period member
      rcases List.mem_cons.mp member with rfl | later
      · exact UInt64.le_refl newest
      · exact UInt64.le_trans (ih descending period later) (before since List.mem_cons_self)

/-- Spends made since the end of a period do not pass for it. -/
theorem Grown.ids_within {filters : SpendFilters} {first record : SpendRecord}
    {fresh : List AutomatedSpend} (grown : Grown first record fresh)
    (settled : Settled filters.1 first record) {period : UInt64 × UInt64}
    (later : ∀ row ∈ fresh, period.2 ≤ row.initiatedMs) :
    (matching (within filters period).1 record.rows).map AutomatedSpend.id =
      (matching (within filters period).1 first.rows).map AutomatedSpend.id := by
  have none : fresh.filter (passes (within filters period).1) = [] := by
    rw [List.filter_eq_nil_iff]
    intro row member
    have outside := UInt64.le_iff_toNat_le.mp (later row member)
    rw [passes_within filters period.1 period.2]
    omega
  have settled : Settled (within filters period).1 first record := settled
  rw [grown.ids_of_settled settled, none, List.map_nil, List.nil_append]

/-- The filters without a status. -/
def anyStatus (filters : SpendFilters) : SpendFilters :=
  ⟨{ filters.1 with status := none }, filters.2⟩

/-- The spends that pass for a period are spends of the period, whatever their status. -/
theorem Grown.sublist_within {filters : SpendFilters} {first record : SpendRecord}
    {fresh : List AutomatedSpend} (grown : Grown first record fresh) {period : UInt64 × UInt64}
    (later : ∀ row ∈ fresh, period.2 ≤ row.initiatedMs) :
    ((matching (within filters period).1 record.rows).map AutomatedSpend.id).Sublist
      ((matching (within (anyStatus filters) period).1 first.rows).map AutomatedSpend.id) := by
  have settled : Settled (anyStatus filters).1 first record := nofun
  rw [← grown.ids_within settled later, matching_eq_filter, matching_eq_filter]
  apply List.Sublist.map
  apply List.monotone_filter_right
  intro row passed
  rw [passes_within filters period.1 period.2, passesBeside, Bool.and_eq_true] at passed
  rw [passes_within (anyStatus filters) period.1 period.2, passesBeside, Bool.and_eq_true]
  exact ⟨⟨rfl, passed.1.2⟩, passed.2⟩

/-- A walk of one period reads spends of the period in their order. -/
theorem served_sublist (env : Environment) (fixtures : ControlHandler Id) (filters : SpendFilters)
    {first : SpendRecord} {requests : List (RequestId × SpendRecord)} {period : UInt64 × UInt64}
    (grown : ∀ request ∈ requests, ∃ fresh,
      Grown first request.2 fresh ∧ ∀ row ∈ fresh, period.2 ≤ row.initiatedMs) :
    ((((spendsRead (within filters period)).walk env none (audited fixtures requests)).flatMap
      SpendsListResult.spends).map AutomatedSpend.id).Sublist
      ((matching (within (anyStatus filters) period).1 first.rows).map AutomatedSpend.id) := by
  have inside : ∀ rows ∈ passing (within filters period) requests,
      (rows.map AutomatedSpend.id).Nodup ∧ (rows.map AutomatedSpend.id).Sublist
        ((matching (within (anyStatus filters) period).1 first.rows).map AutomatedSpend.id) := by
    refine (forall_passing _).mpr fun request isRequest => ?_
    rcases grown request isRequest with ⟨fresh, isGrown, later⟩
    exact ⟨matching_distinct _ request.2, isGrown.sublist_within later⟩
  rw [(walk_audited env fixtures (within filters period) requests).1]
  exact (walk_recalls (spendsSize_pos (within filters period))
    (matching_distinct (within (anyStatus filters) period).1 first) none _ List.suffix_rfl
    (fun rows member => (inside rows member).1)
    (fun rows member => ⟨[], _, rfl, (inside rows (List.mem_of_mem_tail member)).2, nofun⟩)
    (fun rows member => (inside rows (List.mem_of_mem_head? member)).2)).1

/-- A walk that ends has served the spends that pass, if the same pass at each request. -/
theorem served_of_same (env : Environment) (fixtures : ControlHandler Id) (filters : SpendFilters)
    {requests : List (RequestId × SpendRecord)} {ids : List String}
    (same : ∀ request ∈ requests,
      (matching filters.1 request.2.rows).map AutomatedSpend.id = ids)
    (ended : ((spendsRead filters).walk env none (audited fixtures requests)).any
      SpendsListResult.complete = true) :
    (((spendsRead filters).walk env none (audited fixtures requests)).flatMap
      SpendsListResult.spends).map AutomatedSpend.id = ids := by
  rcases walk_audited env fixtures filters requests with ⟨rows, ends⟩
  rw [ends] at ended
  rw [rows]
  have sames : ∀ rows ∈ passing filters requests, rows.map AutomatedSpend.id = ids ∧
      (rows.map AutomatedSpend.id).Nodup :=
    (forall_passing filters).mpr fun request isRequest =>
      ⟨same request isRequest, matching_distinct filters.1 request.2⟩
  have walked := walk_remaining (spendsSize_pos filters) none ids
    (fun rows member => (sames rows (List.mem_of_mem_head? member)).1)
    (fun rows member => ⟨(sames rows member).2, (sames rows member).1 ▸ List.suffix_rfl⟩)
  exact walked.2.1 ended

/-- Periods that meet make up the time between their outermost bounds.  A client that walks
them one after the other reads spends of that time in their order and each once, even if
spends are made and revised meanwhile; and if it walks each to its end and no revision changes
a status that is asked for, it has read those that passed. -/
theorem periods_walk (env : Environment) (fixtures : ControlHandler Id) (filters : SpendFilters)
    (first : SpendRecord) (newest : UInt64) :
    (∀ sinces : List UInt64, (newest :: sinces).Pairwise (· ≥ ·) →
      ((periods newest sinces).flatMap fun period =>
          matching (within filters period).1 first.rows) =
        matching (within filters (sinces.getLastD newest, newest)).1 first.rows) ∧
    ∀ (sinces : List UInt64) (requests : UInt64 × UInt64 → List (RequestId × SpendRecord)),
      (newest :: sinces).Pairwise (· ≥ ·) →
      (∀ period ∈ periods newest sinces, ∀ request ∈ requests period, ∃ fresh,
        Grown first request.2 fresh ∧ ∀ row ∈ fresh, newest ≤ row.initiatedMs) →
      let span := (sinces.getLastD newest, newest)
      let results (period : UInt64 × UInt64) := (spendsRead (within filters period)).walk env none
        (audited fixtures (requests period))
      let served := ((periods newest sinces).flatMap fun period =>
        (results period).flatMap SpendsListResult.spends).map AutomatedSpend.id
      served.Sublist
          ((matching (within (anyStatus filters) span).1 first.rows).map AutomatedSpend.id) ∧
        ((∀ period ∈ periods newest sinces, ∀ request ∈ requests period,
            Settled filters.1 first request.2) →
          (∀ period ∈ periods newest sinces,
            (results period).any SpendsListResult.complete = true) →
          served = (matching (within filters span).1 first.rows).map AutomatedSpend.id) := by
  constructor
  · intro sinces descending
    exact matching_periods filters first descending
  · intro sinces requests descending grown span results served
    have bounded : ∀ period ∈ periods newest sinces, ∀ request ∈ requests period, ∃ fresh,
        Grown first request.2 fresh ∧ ∀ row ∈ fresh, period.2 ≤ row.initiatedMs := by
      intro period member request isRequest
      rcases grown period member request isRequest with ⟨fresh, isGrown, later⟩
      exact ⟨fresh, isGrown, fun row inside =>
        UInt64.le_trans (bound_le_of_mem_periods descending period member) (later row inside)⟩
    constructor
    · rw [← matching_periods (anyStatus filters) first descending, List.map_flatMap]
      simp only [served, List.map_flatMap]
      exact List.Sublist.flatMap_right _ fun period member =>
        served_sublist env fixtures filters (bounded period member)
    · intro settled ended
      rw [← matching_periods filters first descending, List.map_flatMap]
      simp only [served, List.map_flatMap]
      apply List.flatMap_congr
      intro period member
      apply served_of_same env fixtures (within filters period) _ (ended period member)
      intro request isRequest
      rcases bounded period member request isRequest with ⟨fresh, isGrown, later⟩
      exact isGrown.ids_within (settled period member request isRequest) later

/-- Two periods, of which the first ends where a spend is made meanwhile. -/
theorem periods_walk_auditGrown :
    let requests : List (RequestId × SpendRecord) :=
      [(.number 1, auditFixture), (.number 2, auditGrown)]
    ((periods (auditBaseMs + 500) [auditBaseMs + 250, auditBaseMs]).flatMap fun period =>
        ((spendsRead (within (oneByOne none) period)).walk plainText none
          (audited idleNode requests)).flatMap SpendsListResult.spends).map AutomatedSpend.id =
      ["sp_confirmed", "sp_broadcast", "sp_signing", "sp_unresolved"] := by
  intro requests
  have grown : ∀ request ∈ requests, ∃ fresh, Grown auditFixture request.2 fresh ∧
      ∀ row ∈ fresh, auditBaseMs + 500 ≤ row.initiatedMs := by
    refine List.forall_mem_cons.mpr ⟨⟨[], .refl auditFixture, nofun⟩,
      List.forall_mem_singleton.mpr ⟨_, grown_auditGrown, ?_⟩⟩
    rw [List.forall_mem_singleton]
    exact UInt64.le_refl _
  have walked := ((periods_walk plainText idleNode (oneByOne none) auditFixture
    (auditBaseMs + 500)).2 [auditBaseMs + 250, auditBaseMs] (fun _ => requests) (by decide +kernel)
    fun _ _ => grown).2
  rw [walked (fun _ _ _ _ => nofun)]
  · decide +kernel
  · intro period member
    rw [(walk_audited plainText idleNode _ requests).2]
    rcases List.mem_pair.mp member with rfl | rfl
    · decide +kernel
    · decide +kernel

end MockNode

end ControlInterface
