import ControlInterface.Paging

/-!
# Sources of pages

A source answers a cursor with a page: rows, and whether none are left after them.  A walk
asks for the first page, and after each page for the one that follows its last row.  A
source goes by the order of the keys, or by the position of the last row in a log.  A walk
of a log that grows while it is read serves the log as it was at the first request; of a log
whose rows come and go, it serves rows in their order, and loses some only where it loses its
place.
-/

namespace PageSource

open Paging

variable {κ ρ : Type}

/-- Rows, and whether none are left after them. -/
structure Page (ρ : Type) where
  rows : List ρ
  complete : Bool

/-- The page after each cursor. -/
abbrev Source (κ ρ : Type) : Type := Option κ → Page ρ

section Sources

variable (key : ρ → κ)

/-- The pages of a walk, which stops at a complete page; the source may be another one at
each request. -/
def walk : Option κ → List (Source κ ρ) → List (Page ρ)
  | _, [] => []
  | cursor, source :: later =>
      let page := source cursor
      page :: if page.complete then [] else walk (resumeAfter key page.rows) later

/-- The rows of pages. -/
def rowsOf (pages : List (Page ρ)) : List ρ := pages.flatMap Page.rows

/-- The pages come to an end. -/
def ends (pages : List (Page ρ)) : Bool := pages.any Page.complete

/-- The source that goes by the order of the keys. -/
def byOrder (cmp : κ → κ → Ordering) (limit : Nat) (rows : List ρ) : Source κ ρ := fun cursor =>
  ⟨page key cmp limit cursor rows, complete key cmp limit cursor rows⟩

/-- The source that skips the rows up to the cursor, looks at one row more than the page
holds, and tells by that one whether rows are left. -/
def skipping (cmp : κ → κ → Ordering) (limit : Nat) (rows : List ρ) : Source κ ρ := fun cursor =>
  let left := rows.dropWhile fun row => cursor.any fun last => (cmp (key row) last).isLE
  let fetched := left.take (limit + 1)
  ⟨fetched.take limit, decide (fetched.length ≤ limit)⟩

variable [DecidableEq κ]

/-- The rows that are left: all of them, or those after the row the cursor names, if there
is one. -/
def remaining (cursor : Option κ) (rows : List ρ) : List ρ :=
  match cursor with
  | none => rows
  | some last =>
      match rows.findIdx? fun row => key row = last with
      | some index => rows.drop (index + 1)
      | none => []

/-- The source that goes by the position of the last row. -/
def byPosition (limit : Nat) (rows : List ρ) : Source κ ρ := fun cursor =>
  ⟨(remaining key cursor rows).take limit, decide ((remaining key cursor rows).length ≤ limit)⟩

end Sources

/-! ## By order -/

section Order

variable {key : ρ → κ} {cmp : κ → κ → Ordering} {limit : Nat} {cursor : Option κ}
  {snapshots : List (List ρ)}

theorem rowsOf_walk_byOrder :
    rowsOf (walk key cursor (snapshots.map (byOrder key cmp limit))) =
      (Paging.walk key cmp limit cursor snapshots).flatten := by
  induction snapshots generalizing cursor with
  | nil => rfl
  | cons rows later ih =>
      rw [List.map_cons, walk, Paging.walk, rowsOf, List.flatMap_cons, List.flatten_cons, byOrder]
      congr 1
      split
      · rfl
      · exact ih

theorem ends_walk_byOrder :
    ends (walk key cursor (snapshots.map (byOrder key cmp limit))) =
      finishes key cmp limit cursor snapshots := by
  induction snapshots generalizing cursor with
  | nil => rfl
  | cons rows later ih =>
      rw [List.map_cons, walk, finishes, ends, List.any_cons, byOrder]
      cases complete key cmp limit cursor rows with
      | true => rfl
      | false => exact ih

variable [Std.TransCmp cmp] {rows : List ρ}

/-- In ascending rows, those after a cursor are what is left when those up to it are
skipped. -/
theorem dropWhile_eq_rowsAfter (ascending : Ascending key cmp rows) (cursor : Option κ) :
    rows.dropWhile (fun row => cursor.any fun last => (cmp (key row) last).isLE) =
      rowsAfter key cmp cursor rows := by
  cases cursor with
  | none =>
      have all : rowsAfter key cmp none rows = rows := List.filter_eq_self.mpr fun _ _ => rfl
      rw [all]
      cases rows <;> rfl
  | some last =>
      have flip (row : ρ) : cmp (key row) last = (cmp last (key row)).swap := Std.OrientedCmp.eq_swap
      simp only [Option.any_some, flip]
      induction rows with
      | nil => rfl
      | cons row others ih =>
          rcases List.pairwise_cons.mp ascending with ⟨smaller, sorted⟩
          rw [List.dropWhile_cons]
          cases order : cmp last (key row) with
          | lt =>
              -- the first row that follows the cursor is followed by such rows only
              have later : ∀ other ∈ row :: others, follows key cmp (some last) other = true := by
                intro other member
                rw [follows_some]
                rcases List.mem_cons.mp member with rfl | behind
                · exact order
                · exact Std.TransCmp.lt_trans order (smaller other behind)
              rw [rowsAfter, List.filter_eq_self.mpr later]
              rfl
          | eq | gt =>
              have before : ¬follows key cmp (some last) row = true := by
                simp [follows_some, order]
              rw [rowsAfter, List.filter_cons_of_neg before]
              exact ih sorted

theorem skipping_eq_byOrder (ascending : Ascending key cmp rows) :
    skipping key cmp limit rows = byOrder key cmp limit rows := by
  funext cursor
  have beyond : min (limit + 1) (rowsAfter key cmp cursor rows).length ≤ limit ↔
      (rowsAfter key cmp cursor rows).length ≤ limit := by
    omega
  rw [skipping, dropWhile_eq_rowsAfter ascending cursor, byOrder, Paging.page, Paging.complete,
    List.take_take, Nat.min_eq_left (Nat.le_succ limit), List.length_take,
    decide_eq_decide.mpr beyond]

end Order

/-! ## By position -/

section Position

variable {key : ρ → κ} [DecidableEq κ] {limit : Nat} {cursor : Option κ} {rows : List ρ}

theorem remaining_cons (last : κ) (row : ρ) (rows : List ρ) :
    remaining key (some last) (row :: rows) =
      if key row = last then rows else remaining key (some last) rows := by
  rw [remaining, remaining, List.findIdx?_cons]
  by_cases same : key row = last
  · rw [if_pos (decide_eq_true same), if_pos same]
    rfl
  · rw [if_neg (by simpa using same), if_neg same]
    cases rows.findIdx? fun row => decide (key row = last) <;> rfl

/-- What is left after a row is what comes after it. -/
theorem remaining_of_split {last : κ} {front rest : List κ} (fresh : last ∉ front)
    (split : rows.map key = front ++ last :: rest) :
    (remaining key (some last) rows).map key = rest := by
  induction rows generalizing front with
  | nil => exact absurd split.symm (by simp)
  | cons row others ih =>
      rw [remaining_cons]
      cases front with
      | nil =>
          rw [List.map_cons, List.nil_append, List.cons.injEq] at split
          rw [if_pos split.1]
          exact split.2
      | cons first more =>
          rw [List.map_cons, List.cons_append, List.cons.injEq] at split
          rw [List.mem_cons, not_or] at fresh
          rw [if_neg fun same => fresh.1 (same.symm.trans split.1)]
          exact ih fresh.2 split.2

/-- After a row that is not there, nothing is left. -/
theorem remaining_of_notMem {last : κ} (absent : last ∉ rows.map key) :
    remaining key (some last) rows = [] := by
  induction rows with
  | nil => rfl
  | cons row others ih =>
      rw [List.map_cons, List.mem_cons, not_or] at absent
      rw [remaining_cons, if_neg (Ne.symm absent.1)]
      exact ih absent.2

theorem mem_of_mem_remaining {row : ρ} (member : row ∈ remaining key cursor rows) :
    row ∈ rows := by
  unfold remaining at member
  split at member
  next => exact member
  next =>
    split at member
    next => exact List.mem_of_mem_drop member
    next => cases member

/-- The keys of the log end with the given ones, and none of these occurs before. -/
def EndsWith (key : ρ → κ) (keys : List κ) (rows : List ρ) : Prop :=
  (rows.map key).Nodup ∧ keys <:+ rows.map key

theorem EndsWith.remaining {front rest : List κ} {last : κ}
    (endsWith : EndsWith key (front ++ last :: rest) rows) :
    (remaining key (some last) rows).map key = rest ∧ EndsWith key rest rows := by
  rcases endsWith with ⟨distinct, before, split⟩
  rw [← List.append_assoc] at split
  have fresh : last ∉ before ++ front := by
    rw [← split] at distinct
    intro member
    exact (List.nodup_append.mp distinct).2.2 last member last List.mem_cons_self rfl
  refine ⟨remaining_of_split fresh split.symm, distinct, before ++ front ++ [last], ?_⟩
  rw [List.append_assoc, List.singleton_append]
  exact split

omit [DecidableEq κ] in
theorem exists_split {todo : List κ} (positive : 0 < limit) (partly : limit < todo.length) :
    ∃ front last rest, todo = front ++ last :: rest ∧ todo.take limit = front ++ [last] := by
  have nonempty : todo.take limit ≠ [] := by
    apply List.ne_nil_of_length_pos
    rw [List.length_take]
    omega
  have last := List.dropLast_append_getLast nonempty
  refine ⟨(todo.take limit).dropLast, (todo.take limit).getLast nonempty, todo.drop limit, ?_,
    last.symm⟩
  rw [List.append_cons, last, List.take_append_drop]

/-- A walk either ends with what is left, or gets a full page and goes on after the last row
of it. -/
theorem walk_byPosition_cases (positive : 0 < limit) (cursor : Option κ) (rows : List ρ)
    (later : List (List ρ)) :
    (remaining key cursor rows).length ≤ limit ∧
        walk key cursor ((rows :: later).map (byPosition key limit)) =
          [⟨remaining key cursor rows, true⟩] ∨
      ∃ served front last rest, (remaining key cursor rows).map key = front ++ last :: rest ∧
        served.map key = front ++ [last] ∧ front.length + 1 = limit ∧ rest ≠ [] ∧
        walk key cursor ((rows :: later).map (byPosition key limit)) =
          ⟨served, false⟩ :: walk key (some last) (later.map (byPosition key limit)) := by
  rw [List.map_cons, walk, byPosition]
  by_cases whole : (remaining key cursor rows).length ≤ limit
  · left
    rw [decide_eq_true whole, List.take_of_length_le whole]
    exact ⟨whole, rfl⟩
  · right
    have partly : limit < ((remaining key cursor rows).map key).length := by
      rw [List.length_map]
      exact Nat.lt_of_not_le whole
    rcases exists_split positive partly with ⟨front, last, rest, split, taken⟩
    have full := congrArg List.length taken
    rw [List.length_take, Nat.min_eq_left (Nat.le_of_lt partly), List.length_append,
      List.length_singleton] at full
    rw [← List.map_take] at taken
    have resumed : resumeAfter key ((remaining key cursor rows).take limit) = some last := by
      rw [resumeAfter, ← List.getLast?_map, taken, List.getLast?_concat]
    refine ⟨_, front, last, rest, split, taken, full.symm, ?_, ?_⟩
    · rintro rfl
      rw [split, List.length_append, List.length_singleton] at partly
      omega
    · simp only [decide_eq_false whole, Bool.false_eq_true, if_false, resumed]

omit [DecidableEq κ] in
/-- What a full page leaves over is within what the later requests may serve. -/
theorem later_enough {later : List (List ρ)} {count : Nat} (positive : 0 < count)
    (enough : limit + count ≤ (later.length + 1) * limit) :
    later ≠ [] ∧ count ≤ later.length * limit := by
  rw [Nat.succ_mul] at enough
  have bound : count ≤ later.length * limit := by omega
  refine ⟨?_, bound⟩
  rintro rfl
  rw [List.length_nil, Nat.zero_mul] at bound
  omega

/-- A walk serves the rows that are left at its first request, if they stay at the end of
the log. -/
theorem walk_remaining (positive : 0 < limit) (cursor : Option κ) (todo : List κ)
    {snapshots : List (List ρ)}
    (left : ∀ rows ∈ snapshots.head?, (PageSource.remaining key cursor rows).map key = todo)
    (endsWith : ∀ rows ∈ snapshots, EndsWith key todo rows) :
    let pages := walk key cursor (snapshots.map (byPosition key limit))
    (rowsOf pages).map key <+: todo ∧
      (ends pages = true → (rowsOf pages).map key = todo) ∧
      (snapshots ≠ [] → todo.length ≤ snapshots.length * limit → ends pages = true) := by
  induction snapshots generalizing cursor todo with
  | nil => exact ⟨List.nil_prefix, nofun, fun none => absurd rfl none⟩
  | cons rows later ih =>
      rw [List.forall_mem_cons] at endsWith
      have left := left rows rfl
      rcases walk_byPosition_cases positive cursor rows later with
        ⟨-, walked⟩ | ⟨served, front, last, rest, split, page, full, more, walked⟩
      · have all : (rowsOf [⟨remaining key cursor rows, true⟩]).map key = todo := by
          rw [rowsOf, List.flatMap_singleton]
          exact left
        rw [walked]
        exact ⟨all ▸ List.prefix_rfl, fun _ => all, fun _ _ => rfl⟩
      · obtain rfl : front ++ last :: rest = todo := split.symm.trans left
        rcases ih (some last) rest
          (fun rows member => (endsWith.2 rows (List.mem_of_mem_head? member)).remaining.1)
          (fun rows member => (endsWith.2 rows member).remaining.2) with ⟨pre, all, halts⟩
        simp only [walked, rowsOf, List.flatMap_cons, List.map_append, page, ends, List.any_cons,
          Bool.false_or]
        rw [List.append_cons front last rest]
        refine ⟨(List.prefix_append_right_inj _).mpr pre, fun ended => congrArg _ (all ended),
          fun _ enough => ?_⟩
        rw [List.length_append, List.length_append, List.length_singleton, full,
          List.length_cons] at enough
        rcases later_enough (List.length_pos_of_ne_nil more) enough with ⟨others, enough⟩
        exact halts others enough

/-! ## A log whose rows come and go -/

/-- Behind fresh rows, the log has rows of the whole in their order, if not all of them. -/
def Recalls (key : ρ → κ) (whole : List κ) (rows : List ρ) : Prop :=
  ∃ fresh kept, rows.map key = fresh ++ kept ∧ kept.Sublist whole ∧ ∀ row ∈ fresh, row ∉ whole

omit [DecidableEq κ] in
/-- Where a row of a sublist is, there are sublists around it. -/
theorem exists_around {row : κ} {front rest todo : List κ}
    (sublist : (front ++ row :: rest).Sublist todo) : ∃ before after,
      todo = before ++ row :: after ∧ front.Sublist before ∧ rest.Sublist after := by
  rcases List.append_sublist_iff.mp sublist with ⟨before, behind, rfl, inBefore, inBehind⟩
  rcases List.cons_sublist_iff.mp inBehind with ⟨skipped, after, rfl, isSkipped, inAfter⟩
  rcases List.append_of_mem isSkipped with ⟨above, below, rfl⟩
  refine ⟨before ++ above, below ++ after, by simp, inBefore.trans (List.sublist_append_left _ _),
    inAfter.trans (List.sublist_append_right _ _)⟩

omit [DecidableEq κ] in
/-- Around a row that occurs once, a sublist has sublists. -/
theorem sublist_around {row : κ} {front rest before after : List κ}
    (sublist : (front ++ row :: rest).Sublist (before ++ row :: after))
    (distinct : (before ++ row :: after).Nodup) : front.Sublist before ∧ rest.Sublist after := by
  rcases List.nodup_append.mp distinct with ⟨-, behind, apart⟩
  have notBefore : row ∉ before := fun member => apart row member row List.mem_cons_self rfl
  have notAfter : row ∉ after := (List.nodup_cons.mp behind).1
  rcases List.sublist_append_iff.mp sublist with ⟨left, right, split, inBefore, inAfter⟩
  have notLeft : row ∉ left := fun member => notBefore (inBefore.subset member)
  rcases List.sublist_cons_iff.mp inAfter with dropped | ⟨others, rfl, inside⟩
  · -- the row would be on neither side
    have member : row ∈ left ++ right := split ▸ List.mem_append_right _ List.mem_cons_self
    rcases List.mem_append.mp member with onLeft | onRight
    · exact absurd onLeft notLeft
    · exact absurd (dropped.subset onRight) notAfter
  · have notOthers : row ∉ others := fun member => notAfter (inside.subset member)
    rcases (List.append_cons_inj_of_notMem notLeft notOthers).mp split.symm with ⟨rfl, -, rfl⟩
    exact ⟨inBefore, inside⟩

/-- After a row of the whole, a log that recalls it has left rows that come after it there,
and all of these that it has if it has the row. -/
theorem Recalls.remaining {before after : List κ} {last : κ}
    (recalls : Recalls key (before ++ last :: after) rows)
    (distinctRows : (rows.map key).Nodup) (distinct : (before ++ last :: after).Nodup) :
    ((PageSource.remaining key (some last) rows).map key).Sublist after ∧
      (last ∈ rows.map key → ∀ row ∈ after, row ∈ rows.map key →
        row ∈ (PageSource.remaining key (some last) rows).map key) := by
  by_cases present : last ∈ rows.map key
  case neg =>
    rw [remaining_of_notMem present, List.map_nil]
    exact ⟨List.nil_sublist _, fun member => absurd member present⟩
  case pos =>
    rcases recalls with ⟨fresh, kept, split, sublist, isFresh⟩
    have isKept : ∀ row ∈ before ++ last :: after, row ∈ rows.map key → row ∈ kept := by
      intro row inWhole member
      rw [split, List.mem_append] at member
      exact member.resolve_left fun inFresh => isFresh row inFresh inWhole
    have inWhole : last ∈ before ++ last :: after := List.mem_append_right _ List.mem_cons_self
    rcases List.append_of_mem (isKept last inWhole present) with ⟨front, rest, rfl⟩
    rcases sublist_around sublist distinct with ⟨inBefore, inAfter⟩
    have first : last ∉ fresh ++ front := by
      rw [split, ← List.append_assoc] at distinctRows
      intro member
      exact (List.nodup_append.mp distinctRows).2.2 last member last List.mem_cons_self rfl
    rw [remaining_of_split first (by rw [split, List.append_assoc])]
    refine ⟨inAfter, fun _ row isAfter member => ?_⟩
    rcases List.nodup_append.mp distinct with ⟨-, behind, apart⟩
    have member := isKept row (List.mem_append_right _ (List.mem_cons_of_mem _ isAfter)) member
    rcases List.mem_append.mp member with inFront | member
    · exact absurd rfl (apart row (inBefore.subset inFront) row (List.mem_cons_of_mem _ isAfter))
    · rcases List.mem_cons.mp member with rfl | inRest
      · exact absurd isAfter (List.nodup_cons.mp behind).1
      · exact inRest

/-- At each later request the log still has the last row of the page before. -/
def KeepsPlace (key : ρ → κ) (pages : List (Page ρ)) (later : List (List ρ)) : Prop :=
  ∀ turn ∈ pages.zip later, ∀ last ∈ resumeAfter key turn.1.rows, last ∈ turn.2.map key

omit [DecidableEq κ] in
theorem KeepsPlace.cons {page : Page ρ} {pages : List (Page ρ)} {later : List (List ρ)}
    (keepsPlace : KeepsPlace key (page :: pages) later) :
    (∀ rows ∈ later.head?, ∀ last ∈ resumeAfter key page.rows, last ∈ rows.map key) ∧
      KeepsPlace key pages later.tail := by
  cases later with
  | nil => exact ⟨nofun, fun turn member => absurd member (by simp)⟩
  | cons rows later =>
      rw [KeepsPlace, List.zip_cons_cons, List.forall_mem_cons] at keepsPlace
      refine ⟨?_, keepsPlace.2⟩
      rintro _ ⟨⟩
      exact keepsPlace.1

/-- A walk of a log whose rows come and go serves rows of the whole in their order, and comes
to an end within as many requests as these take pages.  If it keeps its place, it has at its
end served every row that the log had at each request. -/
theorem walk_recalls (positive : 0 < limit) {whole : List κ} (distinct : whole.Nodup)
    (cursor : Option κ) (todo : List κ) (suffix : todo <:+ whole) {snapshots : List (List ρ)}
    (distinctRows : ∀ rows ∈ snapshots, (rows.map key).Nodup)
    (recalls : ∀ rows ∈ snapshots.tail, Recalls key whole rows)
    (left : ∀ rows ∈ snapshots.head?,
      ((PageSource.remaining key cursor rows).map key).Sublist todo) :
    let pages := walk key cursor (snapshots.map (byPosition key limit))
    ((rowsOf pages).map key).Sublist todo ∧
      (snapshots ≠ [] → todo.length ≤ snapshots.length * limit → ends pages = true) ∧
      ((∀ rows ∈ snapshots.head?, ∀ row ∈ todo, row ∈ rows.map key →
          row ∈ (PageSource.remaining key cursor rows).map key) →
        KeepsPlace key pages snapshots.tail → ends pages = true →
          ∀ row ∈ todo, (∀ rows ∈ snapshots, row ∈ rows.map key) →
            row ∈ (rowsOf pages).map key) := by
  induction snapshots generalizing cursor todo with
  | nil => exact ⟨List.nil_sublist _, fun none => absurd rfl none, fun _ _ => nofun⟩
  | cons rows later ih =>
      have left := left rows rfl
      rcases walk_byPosition_cases positive cursor rows later with
        ⟨-, walked⟩ | ⟨served, front, last, rest, split, page, full, more, walked⟩
      · have all : rowsOf [⟨remaining key cursor rows, true⟩] = remaining key cursor rows :=
          List.flatMap_singleton ..
        dsimp only
        rw [walked, all]
        refine ⟨left, fun _ _ => rfl, fun has _ _ row isLeft present => ?_⟩
        exact has rows rfl row isLeft (present rows List.mem_cons_self)
      · rw [split] at left
        rcases exists_around left with ⟨before, after, rfl, inBefore, inAfter⟩
        rcases suffix with ⟨gone, inWhole⟩
        rw [← List.append_assoc] at inWhole
        subst inWhole
        rw [List.forall_mem_cons] at distinctRows
        -- what is left at the next request comes after the last row of this page
        have resumed : ∀ rows ∈ later, _ := fun rows member =>
          (recalls rows member).remaining (distinctRows.2 rows member) distinct
        rcases ih (some last) after ⟨gone ++ before ++ [last], by simp⟩ distinctRows.2
          (fun rows member => recalls rows (List.mem_of_mem_tail member))
          (fun rows member => (resumed rows (List.mem_of_mem_head? member)).1) with
          ⟨inOrder, halts, every⟩
        simp only [walked, rowsOf, List.flatMap_cons, List.map_append, page, ends, List.any_cons,
          Bool.false_or]
        refine ⟨?_, fun _ enough => ?_, fun has keepsPlace ended row isLeft present => ?_⟩
        · rw [List.append_cons before last after]
          exact (inBefore.append_right [last]).append inOrder
        · have some : 0 < after.length :=
            Nat.lt_of_lt_of_le (List.length_pos_of_ne_nil more) inAfter.length_le
          have page := inBefore.length_le
          have enough : limit + after.length ≤ (later.length + 1) * limit := by
            rw [List.length_append, List.length_cons, List.length_cons] at enough
            omega
          rcases later_enough some enough with ⟨others, enough⟩
          exact halts others enough
        · rcases keepsPlace.cons with ⟨there, keepsPlace⟩
          have resumes : last ∈ resumeAfter key served := by
            rw [resumeAfter, ← List.getLast?_map, page, List.getLast?_concat]
            rfl
          have inLeft := has rows rfl row isLeft (present rows List.mem_cons_self)
          rw [split, List.append_cons, List.mem_append] at inLeft
          apply List.mem_append.mpr
          rcases inLeft with inPage | inRest
          · exact .inl inPage
          · right
            apply every _ keepsPlace ended row (inAfter.subset inRest)
            · intro rows member
              exact present rows (List.mem_cons_of_mem _ member)
            · intro next isNext
              have member := there next isNext last resumes
              exact (resumed next (List.mem_of_mem_head? isNext)).2 member

/-- A walk of a log that has only grown at its front since the first request serves the
rows of the log at that request, in their order and each once, and comes to an end. -/
theorem walk_grown (positive : 0 < limit) {first : List ρ} {later : List (List ρ)}
    (distinct : (first.map key).Nodup) (grown : ∀ rows ∈ later, EndsWith key (first.map key) rows) :
    let pages := walk key none ((first :: later).map (byPosition key limit))
    (rowsOf pages).map key <+: first.map key ∧
      (ends pages = true → (rowsOf pages).map key = first.map key) ∧
      (first.length ≤ (later.length + 1) * limit → ends pages = true) := by
  have whole : EndsWith key (first.map key) first := ⟨distinct, List.suffix_rfl⟩
  have left : ∀ rows ∈ (first :: later).head?, (remaining key none rows).map key =
      first.map key := by
    rintro _ ⟨⟩
    rfl
  have walked := walk_remaining positive none (first.map key) left
    (List.forall_mem_cons.mpr ⟨whole, grown⟩)
  rw [List.length_map, List.length_cons] at walked
  exact ⟨walked.1, walked.2.1, walked.2.2 (List.cons_ne_nil _ _)⟩

/-- A walk of a log whose rows come and go serves from its first request on rows of the whole
in their order; the rows it may lose are those that are gone at some request, unless it loses
its place. -/
theorem walk_recalled (positive : 0 < limit) {whole : List κ} (distinct : whole.Nodup)
    {first : List ρ} {later : List (List ρ)} (start : (first.map key).Sublist whole)
    (distinctRows : ∀ rows ∈ later, (rows.map key).Nodup)
    (recalls : ∀ rows ∈ later, Recalls key whole rows) :
    let pages := walk key none ((first :: later).map (byPosition key limit))
    ((rowsOf pages).map key).Sublist whole ∧
      (whole.length ≤ (later.length + 1) * limit → ends pages = true) ∧
      (KeepsPlace key pages later → ends pages = true → ∀ row ∈ first.map key,
        (∀ rows ∈ later, row ∈ rows.map key) → row ∈ (rowsOf pages).map key) := by
  have left : ∀ rows ∈ (first :: later).head?,
      ((remaining key none rows).map key).Sublist whole := by
    rintro _ ⟨⟩
    exact start
  rcases walk_recalls positive distinct none whole List.suffix_rfl
    (List.forall_mem_cons.mpr ⟨distinct.sublist start, distinctRows⟩) recalls left with
    ⟨inOrder, halts, every⟩
  refine ⟨inOrder, halts (List.cons_ne_nil _ _), fun keepsPlace ended row isFirst stays => ?_⟩
  apply every _ keepsPlace ended row (start.subset isFirst)
  · exact List.forall_mem_cons.mpr ⟨isFirst, stays⟩
  · rintro _ ⟨⟩ row _ member
    exact member

end Position

end PageSource
