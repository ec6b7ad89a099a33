import ControlInterface.Catalog.Runs
import ControlInterface.PageSource

/-!
# Walks over the wire

A client reads rows page by page: it builds the request for the page after a cursor, and
takes the next cursor from the result it parses.  What it has of a walk is what the node
makes of the cursors, whatever there is between the two.
-/

namespace ControlInterface

open Serde ControlHandler PageSource

/-! ## One call -/

/-- A call that a node accepts and answers is answered to the client with the same result. -/
theorem exchange_answered {env : Environment} {node : ControlHandler Id} {C : CallType}
    {call : C.Params} (id : RequestId) (valid : C.validated env call = .ok call)
    {result : C.Output} (answered : (C.serve node call).run = Except.ok result)
    (present : toValue result ≠ .null) : exchange env node id C call = .ok (id, .ok result) := by
  rw [exchange_of_valid node id valid, answered]
  exact received_ok env id C present

/-! ## Paged reads -/

/-- A read that comes in pages: the params that ask for the page after a cursor, and what a
result says of a page. -/
structure PagedRead (C : CallType) (κ ρ : Type) where
  ask : Option κ → C.Params
  rows : C.Output → List ρ
  complete : C.Output → Bool
  cursor : C.Output → Option κ

namespace PagedRead

variable {C : CallType} {κ ρ : Type} (read : PagedRead C κ ρ)

def page (result : C.Output) : Page ρ where
  rows := read.rows result
  complete := read.complete result

theorem rowsOf_map_page (results : List C.Output) :
    rowsOf (results.map read.page) = results.flatMap read.rows := by
  rw [rowsOf, List.flatMap_map]
  rfl

theorem ends_map_page (results : List C.Output) :
    ends (results.map read.page) = results.any read.complete := by
  rw [ends, List.any_map]
  rfl

/-- The results that a client reads, until a page is complete; the node may have changed at
each request. -/
def walk (env : Environment) : Option κ → List (RequestId × ControlHandler Id) → List C.Output
  | _, [] => []
  | cursor, (id, node) :: later =>
      match exchange env node id C (read.ask cursor) with
      | .ok (_, .ok result) =>
          result :: if read.complete result then [] else walk env (read.cursor result) later
      | _ => []

/-- The node serves the source at cursors of a kind, and hands out no others. -/
structure Serves (env : Environment) (Known : κ → Prop) (key : ρ → κ) (node : ControlHandler Id)
    (source : Source κ ρ) : Prop where
  valid {cursor : Option κ} : (∀ last ∈ cursor, Known last) →
    C.validated env (read.ask cursor) = .ok (read.ask cursor)
  served {cursor : Option κ} : (∀ last ∈ cursor, Known last) →
    ∃ result, (C.serve node (read.ask cursor)).run = Except.ok result ∧ toValue result ≠ .null ∧
      read.page result = source cursor ∧
      read.cursor result = Paging.resumeAfter key (read.rows result)
  known (cursor : Option κ) : ∀ row ∈ (source cursor).rows, Known (key row)

variable {read} {env : Environment} {Known : κ → Prop} {key : ρ → κ}

/-- A client resumes from a cursor of the kind. -/
theorem Serves.resumes {node : ControlHandler Id} {source : Source κ ρ}
    (serves : read.Serves env Known key node source) {cursor : Option κ} {result : C.Output}
    (same : read.page result = source cursor)
    (resume : read.cursor result = Paging.resumeAfter key (read.rows result)) :
    ∀ last ∈ read.cursor result, Known last := by
  have rows : read.rows result = (source cursor).rows := congrArg Page.rows same
  intro last resumed
  rw [resume, rows] at resumed
  rcases Option.map_eq_some_iff.mp resumed with ⟨row, isLast, rfl⟩
  exact serves.known cursor row (List.mem_of_getLast? isLast)

/-- A client reads the pages of the sources that the nodes serve. -/
theorem walk_eq {nodes : List (RequestId × ControlHandler Id)} {sources : List (Source κ ρ)}
    (serves : List.Forall₂ (fun node source => read.Serves env Known key node.2 source) nodes
      sources) {cursor : Option κ} (known : ∀ last ∈ cursor, Known last) :
    (read.walk env cursor nodes).map read.page = PageSource.walk key cursor sources := by
  induction serves generalizing cursor with
  | nil => rfl
  | @cons node source later sources head _ ih =>
      rcases node with ⟨id, node⟩
      rcases head.served known with ⟨result, answered, present, same, resume⟩
      have complete : read.complete result = (source cursor).complete :=
        congrArg Page.complete same
      have resumed : read.cursor result = Paging.resumeAfter key (source cursor).rows :=
        resume.trans (congrArg (Paging.resumeAfter key <| Page.rows ·) same)
      rw [walk, PageSource.walk, exchange_answered id (head.valid known) answered present]
      simp only [List.map_cons, same, complete]
      congr 1
      split
      · rfl
      · rw [← resumed]
        exact ih (head.resumes same resume)

/-- Every result that a client reads is a node's answer to a request for some page. -/
theorem exists_served {nodes : List (RequestId × ControlHandler Id)} {sources : List (Source κ ρ)}
    (serves : List.Forall₂ (fun node source => read.Serves env Known key node.2 source) nodes
      sources) {cursor : Option κ} (known : ∀ last ∈ cursor, Known last) :
    ∀ result ∈ read.walk env cursor nodes, ∃ node ∈ nodes, ∃ position,
      (C.serve node.2 (read.ask position)).run = Except.ok result := by
  induction serves generalizing cursor with
  | nil => exact nofun
  | @cons node source later sources head _ ih =>
      rcases node with ⟨id, node⟩
      rcases head.served known with ⟨first, answered, present, same, resume⟩
      rw [walk, exchange_answered id (head.valid known) answered present]
      intro result member
      rcases List.mem_cons.mp member with rfl | rest
      · exact ⟨_, List.mem_cons_self, cursor, answered⟩
      · split at rest
        · cases rest
        · rcases ih (head.resumes same resume) result rest with ⟨other, inside, served⟩
          exact ⟨other, List.mem_cons_of_mem _ inside, served⟩

end PagedRead

end ControlInterface
