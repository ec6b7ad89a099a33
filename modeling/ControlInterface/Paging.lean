import Mathlib

/-!
# Paging by key

Rows are read page by page in the order of their keys: a page holds the first rows
strictly after a cursor, and the next request resumes after the last row of the page.
The rows may be others at every request.  A walk never serves a key twice, and when it
ends it has served every row that was there all along.
-/

namespace Paging

variable {κ ρ : Type}

section Pages

variable (key : ρ → κ) (cmp : κ → κ → Ordering)

/-- The row comes strictly after the cursor, if there is one. -/
def follows (cursor : Option κ) (row : ρ) : Bool :=
  cursor.all fun last => (cmp last (key row)).isLT

/-- The rows strictly after a cursor. -/
def rowsAfter (cursor : Option κ) (rows : List ρ) : List ρ := rows.filter (follows key cmp cursor)

/-- The rows a page holds. -/
def page (limit : Nat) (cursor : Option κ) (rows : List ρ) : List ρ :=
  (rowsAfter key cmp cursor rows).take limit

/-- No row is left beyond the page. -/
def complete (limit : Nat) (cursor : Option κ) (rows : List ρ) : Bool :=
  decide ((rowsAfter key cmp cursor rows).length ≤ limit)

/-- The cursor to resume from after a page. -/
def resumeAfter (served : List ρ) : Option κ := served.getLast?.map key

/-- The pages of a walk, which stops at a complete page; the rows are given as they are at
each request. -/
def walk (limit : Nat) : Option κ → List (List ρ) → List (List ρ)
  | _, [] => []
  | cursor, rows :: later =>
      let served := page key cmp limit cursor rows
      served :: if complete key cmp limit cursor rows then []
        else walk limit (resumeAfter key served) later

/-- The walk comes to a complete page. -/
def finishes (limit : Nat) : Option κ → List (List ρ) → Bool
  | _, [] => false
  | cursor, rows :: later =>
      complete key cmp limit cursor rows ||
        finishes limit (resumeAfter key (page key cmp limit cursor rows)) later

/-- The rows are in strictly ascending order of their keys. -/
def Ascending (rows : List ρ) : Prop :=
  rows.Pairwise fun left right => cmp (key left) (key right) = .lt

end Pages

/-! ## One page -/

section Step

variable {key : ρ → κ} {cmp : κ → κ → Ordering} {limit : Nat} {cursor : Option κ} {rows : List ρ}

theorem follows_some {last : κ} {row : ρ} :
    follows key cmp (some last) row = true ↔ cmp last (key row) = .lt := by
  rw [follows, Option.all_some, Ordering.isLT_iff_eq_lt]

theorem mem_rowsAfter {row : ρ} :
    row ∈ rowsAfter key cmp cursor rows ↔ row ∈ rows ∧ follows key cmp cursor row = true :=
  List.mem_filter

theorem Ascending.rowsAfter (ascending : Ascending key cmp rows) :
    Ascending key cmp (rowsAfter key cmp cursor rows) :=
  ascending.filter _

/-- A page that is not complete splits the rows after the cursor at its last row. -/
structure Cut (key : ρ → κ) (cmp : κ → κ → Ordering) (limit : Nat) (cursor : Option κ)
    (rows front : List ρ) (last : ρ) (rest : List ρ) : Prop where
  after : rowsAfter key cmp cursor rows = front ++ last :: rest
  served : page key cmp limit cursor rows = front ++ [last]
  resume : resumeAfter key (page key cmp limit cursor rows) = some (key last)

theorem exists_cut (positive : 0 < limit) (partly : complete key cmp limit cursor rows = false) :
    ∃ front last rest, Cut key cmp limit cursor rows front last rest := by
  rw [complete, decide_eq_false_iff_not, Nat.not_le] at partly
  have length : (page key cmp limit cursor rows).length = limit := by
    rw [page, List.length_take]
    omega
  have nonempty : page key cmp limit cursor rows ≠ [] := List.ne_nil_of_length_pos (by omega)
  have ends := List.dropLast_append_getLast nonempty
  refine ⟨_, (page key cmp limit cursor rows).getLast nonempty,
    (rowsAfter key cmp cursor rows).drop limit, ?_, ends.symm, ?_⟩
  · rw [List.append_cons, ends, page, List.take_append_drop]
  · rw [resumeAfter, List.getLast?_eq_some_getLast nonempty]
    rfl

namespace Cut

variable {front rest : List ρ} {last : ρ}

theorem mem_page (cut : Cut key cmp limit cursor rows front last rest) {row : ρ} :
    row ∈ page key cmp limit cursor rows ↔ row ∈ front ∨ row = last := by
  rw [cut.served, List.mem_append, List.mem_singleton]

theorem follows_last (cut : Cut key cmp limit cursor rows front last rest) :
    follows key cmp cursor last = true := by
  have member : last ∈ rowsAfter key cmp cursor rows := by
    rw [cut.after]
    exact List.mem_append_right _ List.mem_cons_self
  exact (mem_rowsAfter.mp member).2

theorem ascending (cut : Cut key cmp limit cursor rows front last rest)
    (sorted : Ascending key cmp rows) : Ascending key cmp (front ++ last :: rest) :=
  cut.after ▸ sorted.rowsAfter

theorem front_before (cut : Cut key cmp limit cursor rows front last rest)
    (sorted : Ascending key cmp rows) : ∀ row ∈ front, cmp (key row) (key last) = .lt := by
  intro row member
  exact (List.pairwise_append.mp (cut.ascending sorted)).2.2 row member last List.mem_cons_self

theorem rest_after (cut : Cut key cmp limit cursor rows front last rest)
    (sorted : Ascending key cmp rows) :
    ∀ row ∈ rest, follows key cmp (some (key last)) row = true := by
  intro row member
  rw [follows_some]
  exact List.rel_of_pairwise_cons (List.pairwise_append.mp (cut.ascending sorted)).2.1 member

end Cut

theorem follows_trans [Std.TransCmp cmp] {middle row : ρ}
    (before : follows key cmp cursor middle = true)
    (after : follows key cmp (some (key middle)) row = true) :
    follows key cmp cursor row = true := by
  cases cursor with
  | none => rfl
  | some last =>
      rw [follows_some] at before after ⊢
      exact Std.TransCmp.lt_trans before after

/-- What follows the last row of a page is what the page left over. -/
theorem Cut.rowsAfter_last [Std.TransCmp cmp] {front rest : List ρ} {last : ρ}
    (cut : Cut key cmp limit cursor rows front last rest) (ascending : Ascending key cmp rows) :
    rowsAfter key cmp (some (key last)) rows = rest := by
  have narrowed : rowsAfter key cmp (some (key last)) rows =
      (rowsAfter key cmp cursor rows).filter (follows key cmp (some (key last))) := by
    rw [rowsAfter, rowsAfter, List.filter_filter]
    apply List.filter_congr
    intro row _
    cases after : follows key cmp (some (key last)) row with
    | false => rfl
    | true => rw [follows_trans cut.follows_last after, Bool.and_self]
  have dropped : ∀ row ∈ front ++ [last], follows key cmp (some (key last)) row ≠ true := by
    intro row member
    rw [ne_eq, follows_some]
    rcases List.mem_append.mp member with before | isLast
    · have swapped : cmp (key last) (key row) = (cmp (key row) (key last)).swap :=
        Std.OrientedCmp.eq_swap
      rw [swapped, cut.front_before ascending row before]
      exact nofun
    · have itself : cmp (key last) (key last) = .eq := Std.ReflCmp.compare_self
      rw [List.mem_singleton.mp isLast, itself]
      exact nofun
  rw [narrowed, cut.after, List.append_cons, List.filter_append,
    List.filter_eq_nil_iff.mpr dropped, List.nil_append,
    List.filter_eq_self.mpr (cut.rest_after ascending)]

end Step

/-! ## Whole walks -/

section Walks

variable {key : ρ → κ} {cmp : κ → κ → Ordering} {limit : Nat}

theorem mem_page_of_complete {cursor : Option κ} {rows : List ρ}
    (whole : complete key cmp limit cursor rows = true) :
    page key cmp limit cursor rows = rowsAfter key cmp cursor rows :=
  List.take_of_length_le (of_decide_eq_true whole)

/-- No page serves a row that was not there. -/
theorem exists_of_mem_walk {cursor : Option κ} {snapshots : List (List ρ)} {row : ρ}
    (served : row ∈ (walk key cmp limit cursor snapshots).flatten) :
    ∃ rows ∈ snapshots, row ∈ rows := by
  induction snapshots generalizing cursor with
  | nil => simp [walk] at served
  | cons rows later ih =>
      rw [walk, List.flatten_cons, List.mem_append] at served
      rcases served with here | there
      · exact ⟨rows, List.mem_cons_self, (mem_rowsAfter.mp (List.mem_of_mem_take here)).1⟩
      · split at there
        next => simp at there
        next =>
          rcases ih there with ⟨others, member, inside⟩
          exact ⟨others, List.mem_cons_of_mem _ member, inside⟩

/-- Whatever happens to the rows, a walk serves them in ascending order, and so no key
twice. -/
theorem walk_ascending [Std.TransCmp cmp] (positive : 0 < limit) {snapshots : List (List ρ)}
    (ascending : ∀ rows ∈ snapshots, Ascending key cmp rows) (cursor : Option κ) :
    Ascending key cmp (walk key cmp limit cursor snapshots).flatten ∧
      ∀ row ∈ (walk key cmp limit cursor snapshots).flatten,
        follows key cmp cursor row = true := by
  induction snapshots generalizing cursor with
  | nil => exact ⟨.nil, by simp [walk]⟩
  | cons rows later ih =>
      rw [List.forall_mem_cons] at ascending
      have pageAscending : Ascending key cmp (page key cmp limit cursor rows) :=
        ascending.1.rowsAfter.sublist (List.take_sublist _ _)
      have pageFollows : ∀ row ∈ page key cmp limit cursor rows,
          follows key cmp cursor row = true := fun row member =>
        (mem_rowsAfter.mp (List.mem_of_mem_take member)).2
      cases partly : complete key cmp limit cursor rows with
      | true =>
          simp only [walk, partly, if_true, List.flatten_cons, List.flatten_nil, List.append_nil]
          exact ⟨pageAscending, pageFollows⟩
      | false =>
          rcases exists_cut positive partly with ⟨front, last, rest, cut⟩
          have others := ih ascending.2 (some (key last))
          simp only [walk, partly, Bool.false_eq_true, if_false, List.flatten_cons, cut.resume]
          constructor
          · apply List.pairwise_append.mpr
            refine ⟨pageAscending, others.1, ?_⟩
            intro row member next served
            have after := follows_some.mp (others.2 next served)
            rcases cut.mem_page.mp member with before | isLast
            · exact Std.TransCmp.lt_trans (cut.front_before ascending.1 row before) after
            · rwa [isLast]
          · intro row member
            rcases List.mem_append.mp member with here | there
            · exact pageFollows row here
            · exact follows_trans cut.follows_last (others.2 row there)

/-- A walk that ends has served every row that was there at each request. -/
theorem mem_walk_of_finishes (positive : 0 < limit) {snapshots : List (List ρ)}
    (ascending : ∀ rows ∈ snapshots, Ascending key cmp rows) {cursor : Option κ}
    (ends : finishes key cmp limit cursor snapshots = true) {row : ρ}
    (present : ∀ rows ∈ snapshots, row ∈ rows) (after : follows key cmp cursor row = true) :
    row ∈ (walk key cmp limit cursor snapshots).flatten := by
  induction snapshots generalizing cursor with
  | nil => cases ends
  | cons rows later ih =>
      rw [List.forall_mem_cons] at ascending present
      have member := mem_rowsAfter.mpr ⟨present.1, after⟩
      rw [walk, List.flatten_cons, List.mem_append]
      cases partly : complete key cmp limit cursor rows with
      | true =>
          left
          rwa [mem_page_of_complete partly]
      | false =>
          rcases exists_cut positive partly with ⟨front, last, rest, cut⟩
          rw [finishes, partly, Bool.false_or, cut.resume] at ends
          rw [cut.after, List.append_cons, List.mem_append, ← cut.served] at member
          simp only [Bool.false_eq_true, if_false, cut.resume]
          exact member.imp_right fun left =>
            ih ascending.2 ends present.2 (cut.rest_after ascending.1 row left)

/-- With rows that stay the same, every page that is not complete leaves fewer of them. -/
theorem finishes_replicate [Std.TransCmp cmp] (positive : 0 < limit) {rows : List ρ}
    (ascending : Ascending key cmp rows) {cursor : Option κ} {count : Nat}
    (enough : (rowsAfter key cmp cursor rows).length < count) :
    finishes key cmp limit cursor (List.replicate count rows) = true := by
  induction count generalizing cursor with
  | zero => cases enough
  | succ count ih =>
      rw [List.replicate_succ, finishes]
      cases partly : complete key cmp limit cursor rows with
      | true => rw [Bool.true_or]
      | false =>
          rcases exists_cut positive partly with ⟨front, last, rest, cut⟩
          rw [Bool.false_or, cut.resume]
          apply ih
          rw [cut.after, List.length_append, List.length_cons] at enough
          rw [cut.rowsAfter_last ascending]
          omega

/-- Two ascending lists of the same rows are equal. -/
theorem Ascending.ext [Std.TransCmp cmp] {left right : List ρ}
    (leftAscending : Ascending key cmp left) (rightAscending : Ascending key cmp right)
    (same : ∀ row, row ∈ left ↔ row ∈ right) : left = right := by
  have distinct : ∀ {first second : ρ}, cmp (key first) (key second) = .lt → first ≠ second := by
    intro first second less equal
    have itself : cmp (key second) (key second) = .eq := Std.ReflCmp.compare_self
    rw [equal, itself] at less
    cases less
  have permutation : left.Perm right :=
    (List.perm_ext_iff_of_nodup (leftAscending.imp distinct) (rightAscending.imp distinct)).mpr
      same
  apply permutation.eq_of_pairwise _ leftAscending rightAscending
  intro first second _ _ less greater
  exact absurd rfl (distinct (Std.TransCmp.lt_trans less greater))

/-- A walk over rows that stay the same serves each of them once. -/
theorem walk_replicate [Std.TransCmp cmp] (positive : 0 < limit) {rows : List ρ}
    (ascending : Ascending key cmp rows) {count : Nat} (enough : rows.length < count) :
    finishes key cmp limit none (List.replicate count rows) = true ∧
      (walk key cmp limit none (List.replicate count rows)).flatten = rows := by
  have all : rowsAfter key cmp none rows = rows := List.filter_eq_self.mpr fun _ _ => rfl
  have ends : finishes key cmp limit none (List.replicate count rows) = true :=
    finishes_replicate positive ascending (all.symm ▸ enough)
  have every : ∀ copy ∈ List.replicate count rows, copy = rows := fun copy member =>
    List.eq_of_mem_replicate member
  have ascendings : ∀ copy ∈ List.replicate count rows, Ascending key cmp copy :=
    fun copy member => every copy member ▸ ascending
  refine ⟨ends, (walk_ascending positive ascendings none).1.ext ascending ?_⟩
  intro row
  constructor
  · intro served
    rcases exists_of_mem_walk served with ⟨copy, member, inside⟩
    rwa [every copy member] at inside
  · intro member
    exact mem_walk_of_finishes positive ascendings ends
      (fun copy inside => every copy inside ▸ member) rfl

end Walks

end Paging
