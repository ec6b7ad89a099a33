import Mathlib

/-!
# Unwinding

A machine takes inputs one after the other, and gives an output to each.  If the inputs of
one kind see only a part of the state, and the others leave that part alone, then what is
seen of a run is a run of its own.  If an input changes nothing when it is repeated, then
nothing comes of its repetitions.
-/

namespace Unwinding

variable {ι ω σ : Type} (step : ι → σ → ω × σ)

/-- The outputs to inputs, and the state in the end. -/
def run : List ι → σ → List ω × σ
  | [], state => ([], state)
  | input :: rest, state =>
      let (output, next) := step input state
      let (outputs, last) := run rest next
      (output :: outputs, last)

theorem run_cons (input : ι) (rest : List ι) (state : σ) :
    run step (input :: rest) state =
      ((step input state).1 :: (run step rest (step input state).2).1,
        (run step rest (step input state).2).2) := rfl

/-! ## A part of the inputs -/

/-- The outputs to the inputs of a kind. -/
def seen (visible : ι → Bool) : List ι → List ω → List ω
  | input :: rest, output :: outputs =>
      if visible input then output :: seen visible rest outputs else seen visible rest outputs
  | _, _ => []

/-- The inputs of the kind see no more of the state than states agree on, and the others
leave that alone. -/
structure Unwinds (visible : ι → Bool) (Agree : σ → σ → Prop) : Prop where
  sees {input : ι} {left right : σ} : visible input = true → Agree left right →
    (step input left).1 = (step input right).1 ∧ Agree (step input left).2 (step input right).2
  hides {input : ι} {left right : σ} : visible input = false → Agree left right →
    Agree (step input left).2 right

variable {step}

/-- What is seen of a run is the run on the inputs of the kind. -/
theorem Unwinds.seen_run {visible : ι → Bool} {Agree : σ → σ → Prop}
    (unwinds : Unwinds step visible Agree) (inputs : List ι) {left right : σ}
    (agree : Agree left right) :
    seen visible inputs (run step inputs left).1 =
        (run step (inputs.filter visible) right).1 ∧
      Agree (run step inputs left).2 (run step (inputs.filter visible) right).2 := by
  induction inputs generalizing left right with
  | nil => exact ⟨rfl, agree⟩
  | cons input rest ih =>
      rw [run_cons, seen]
      cases kind : visible input with
      | true =>
          rcases unwinds.sees kind agree with ⟨same, next⟩
          rw [if_pos rfl, List.filter_cons_of_pos kind, run_cons, same, (ih next).1]
          exact ⟨rfl, (ih next).2⟩
      | false =>
          have next := unwinds.hides kind agree
          rw [if_neg Bool.false_ne_true, List.filter_cons_of_neg (by rw [kind]; exact nofun)]
          exact ih next

/-! ## Inputs that are repeated -/

variable (step)

/-- An input that changes nothing when it is repeated. -/
def Absorbed (input : ι) : Prop :=
  ∀ state, (step input (step input state).2).2 = (step input state).2

/-- Every input as often as it is delivered: once, and then again. -/
def delivered (deliveries : List (ι × Nat)) : List ι :=
  deliveries.flatMap fun (input, again) => List.replicate (again + 1) input

/-- The output to the first delivery of each input. -/
def firsts : List (ι × Nat) → List ω → List ω
  | [], _ => []
  | (_, again) :: rest, outputs => outputs.head?.toList ++ firsts rest (outputs.drop (again + 1))

variable {step}

theorem run_append (front back : List ι) (state : σ) :
    run step (front ++ back) state =
      ((run step front state).1 ++ (run step back (run step front state).2).1,
        (run step back (run step front state).2).2) := by
  induction front generalizing state with
  | nil => rfl
  | cons input rest ih =>
      rw [List.cons_append, run_cons, ih]
      rfl

theorem length_run (inputs : List ι) (state : σ) :
    (run step inputs state).1.length = inputs.length := by
  induction inputs generalizing state with
  | nil => rfl
  | cons input rest ih => rw [run_cons, List.length_cons, List.length_cons, ih]

theorem Absorbed.run_replicate {input : ι} (absorbed : Absorbed step input) (again : Nat)
    (state : σ) :
    (run step (List.replicate again input) (step input state).2).2 = (step input state).2 := by
  induction again with
  | zero => rfl
  | succ again ih => rw [List.replicate_succ, run_cons, absorbed state, ih]

/-- Repetitions of inputs that are absorbed change neither the state in the end nor the
output to the first delivery of any input. -/
theorem run_delivered {deliveries : List (ι × Nat)}
    (absorbed : ∀ delivery ∈ deliveries, Absorbed step delivery.1) (state : σ) :
    (run step (delivered deliveries) state).2 = (run step (deliveries.map Prod.fst) state).2 ∧
      firsts deliveries (run step (delivered deliveries) state).1 =
        (run step (deliveries.map Prod.fst) state).1 := by
  induction deliveries generalizing state with
  | nil => exact ⟨rfl, rfl⟩
  | cons delivery rest ih =>
      rcases delivery with ⟨input, again⟩
      rw [List.forall_mem_cons] at absorbed
      have settled := absorbed.1.run_replicate again state
      have others := ih absorbed.2 (step input state).2
      have first : delivered ((input, again) :: rest) =
          (input :: List.replicate again input) ++ delivered rest := rfl
      rw [first, run_append, run_cons, settled, List.map_cons, run_cons]
      refine ⟨others.1, ?_⟩
      have length : (run step (List.replicate again input) (step input state).2).1.length = again :=
        (length_run _ _).trans List.length_replicate
      rw [firsts, List.cons_append, List.head?_cons, Option.toList_some, List.drop_succ_cons,
        List.drop_left' length, others.2]
      rfl

end Unwinding
