import Mathlib

/-!
# Calls in flight

A client has any number of calls outstanding at a node.  Requests and replies travel over a
network that delivers them in any order, and the client tells replies apart by the ids of
its calls.  Whatever the order, a run amounts to carrying out the calls one after the
other; no call is lost, and none is answered twice.
-/

namespace InFlight

variable {ι κ : Type} {ρ : κ → Type} {Q P σ : Type}

/-! ## The two ends of a wire -/

/-- How a call becomes a request message, what a node does on one, and what a client
makes of a reply message: the id it answers, and the result it holds for a call. -/
structure Wire (ι κ : Type) (ρ : κ → Type) (Q P σ : Type) where
  request : ι → κ → Q
  serves : Q → σ → P → σ → Prop
  address : P → Option ι
  read (call : κ) : P → Option (ρ call)

/-- A call with its result. -/
abbrev Completed (ρ : κ → Type) : Type := (call : κ) × ρ call

/-- The call that was completed, under its id. -/
def asked (entry : ι × Completed ρ) : ι × κ := (entry.1, entry.2.1)

/-- The reply answers the call with the result. -/
def Wire.Carries (wire : Wire ι κ ρ Q P σ) (entry : ι × Completed ρ) (reply : P) : Prop :=
  wire.address reply = some entry.1 ∧ wire.read entry.2.1 reply = some entry.2.2

/-- A node serves the request of a call by carrying out the call. -/
structure Wire.Faithful (wire : Wire ι κ ρ Q P σ)
    (performs : (call : κ) → σ → ρ call → σ → Prop) : Prop where
  carries {id : ι} {call : κ} {state : σ} {reply : P} {next : σ} :
    wire.serves (wire.request id call) state reply next →
      ∃ result, wire.Carries (id, ⟨call, result⟩) reply ∧ performs call state result next
  total (id : ι) (call : κ) (state : σ) :
    ∃ reply next, wire.serves (wire.request id call) state reply next

/-! ## Runs -/

/-- The node, the messages in flight, and what the client knows: the calls it has issued,
those that are outstanding, and the results that were delivered. -/
structure State (ι κ : Type) (ρ : κ → Type) (Q P σ : Type) where
  node : σ
  requests : Multiset Q
  replies : Multiset P
  issued : Multiset (ι × κ)
  pending : Multiset (ι × κ)
  delivered : Multiset (ι × Completed ρ)

/-- Nothing has been issued. -/
def State.initial (start : σ) : State ι κ ρ Q P σ where
  node := start
  requests := 0
  replies := 0
  issued := 0
  pending := 0
  delivered := 0

/-- No message is in flight. -/
def State.Quiet (state : State ι κ ρ Q P σ) : Prop := state.requests = 0 ∧ state.replies = 0

/-- The client issues a call. -/
def State.send (wire : Wire ι κ ρ Q P σ) (state : State ι κ ρ Q P σ) (id : ι) (call : κ) :
    State ι κ ρ Q P σ :=
  { state with
    requests := wire.request id call ::ₘ state.requests
    issued := (id, call) ::ₘ state.issued
    pending := (id, call) ::ₘ state.pending }

/-- Any message in flight is taken: a request by the node, or a reply by the client. -/
inductive Moves (wire : Wire ι κ ρ Q P σ) : State ι κ ρ Q P σ → State ι κ ρ Q P σ → Prop
  | serve {state : State ι κ ρ Q P σ} {request : Q} {requests : Multiset Q} {reply : P} {next : σ}
      (taken : state.requests = request ::ₘ requests)
      (served : wire.serves request state.node reply next) :
      Moves wire state
        { state with node := next, requests := requests, replies := reply ::ₘ state.replies }
  | receive {state : State ι κ ρ Q P σ} {reply : P} {replies : Multiset P} {id : ι} {call : κ}
      {pending : Multiset (ι × κ)} {result : ρ call}
      (taken : state.replies = reply ::ₘ replies)
      (outstanding : state.pending = (id, call) ::ₘ pending)
      (carried : wire.Carries (id, ⟨call, result⟩) reply) :
      Moves wire state
        { state with
          replies := replies
          pending := pending
          delivered := (id, ⟨call, result⟩) ::ₘ state.delivered }

/-- A message is taken, or the client issues a call under an id that none of its
outstanding calls has. -/
inductive Step (wire : Wire ι κ ρ Q P σ) : State ι κ ρ Q P σ → State ι κ ρ Q P σ → Prop
  | send {state : State ι κ ρ Q P σ} {id : ι} {call : κ}
      (fresh : id ∉ state.pending.map Prod.fst) : Step wire state (state.send wire id call)
  | move {state next : State ι κ ρ Q P σ} (moved : Moves wire state next) : Step wire state next

/-- Any number of steps. -/
abbrev Run (wire : Wire ι κ ρ Q P σ) : State ι κ ρ Q P σ → State ι κ ρ Q P σ → Prop :=
  Relation.ReflTransGen (Step wire)

/-- The calls are carried out one after the other, each with its result. -/
inductive Replays (performs : (call : κ) → σ → ρ call → σ → Prop) :
    σ → List (ι × Completed ρ) → σ → Prop
  | nil (state : σ) : Replays performs state [] state
  | snoc {start state next : σ} {order : List (ι × Completed ρ)} {id : ι} {call : κ}
      {result : ρ call} (earlier : Replays performs start order state)
      (performed : performs call state result next) :
      Replays performs start (order ++ [(id, ⟨call, result⟩)]) next

theorem Replays.trans {performs : (call : κ) → σ → ρ call → σ → Prop} {start middle final : σ}
    {earlier later : List (ι × Completed ρ)} (first : Replays performs start earlier middle)
    (second : Replays performs middle later final) :
    Replays performs start (earlier ++ later) final := by
  induction second with
  | nil => rwa [List.append_nil]
  | snoc _ performed ih =>
      rw [← List.append_assoc]
      exact ih.snoc performed

/-! ## What a run amounts to -/

section Linearization

variable {wire : Wire ι κ ρ Q P σ} {performs : (call : κ) → σ → ρ call → σ → Prop}

/-- Every outstanding call has one message in flight: the request of a call that waits, or
the reply of one that was answered.  The calls of the given order are those that the node
has carried out. -/
structure Accounts (wire : Wire ι κ ρ Q P σ) (state : State ι κ ρ Q P σ)
    (order : List (ι × Completed ρ)) (waiting : Multiset (ι × κ))
    (answered : Multiset (ι × Completed ρ)) : Prop where
  distinct : (state.pending.map Prod.fst).Nodup
  pending : state.pending = waiting + answered.map asked
  requests : state.requests = waiting.map fun entry => wire.request entry.1 entry.2
  replies : Multiset.Rel wire.Carries answered state.replies
  issued : state.issued = state.pending + state.delivered.map asked
  served : (order : Multiset (ι × Completed ρ)) = state.delivered + answered

/-- The calls the node has carried out, in that order, account for the state. -/
def Linearized (wire : Wire ι κ ρ Q P σ) (state : State ι κ ρ Q P σ)
    (order : List (ι × Completed ρ)) : Prop :=
  ∃ waiting answered, Accounts wire state order waiting answered

theorem linearized_initial (start : σ) : Linearized wire (.initial start) [] := by
  refine ⟨0, 0, ?_⟩
  constructor <;> simp [State.initial]

/-- Of two outstanding calls with one id there is only one. -/
theorem call_unique {pending others : Multiset (ι × κ)} {id : ι} {left right : κ}
    (distinct : (pending.map Prod.fst).Nodup) (outstanding : pending = (id, left) ::ₘ others)
    (member : (id, right) ∈ pending) : right = left := by
  subst outstanding
  rw [Multiset.map_cons, Multiset.nodup_cons] at distinct
  rcases Multiset.mem_cons.mp member with same | other
  · exact (Prod.mk.inj same).2
  · exact absurd (Multiset.mem_map_of_mem Prod.fst other) distinct.1

/-- Issuing a call carries out nothing. -/
theorem Linearized.send {state : State ι κ ρ Q P σ} {order : List (ι × Completed ρ)}
    (linearized : Linearized wire state order) {id : ι} {call : κ}
    (fresh : id ∉ state.pending.map Prod.fst) :
    Linearized wire (state.send wire id call) order := by
  rcases linearized with ⟨waiting, answered, accounts⟩
  refine ⟨(id, call) ::ₘ waiting, answered, ?_, ?_, ?_, accounts.replies, ?_, accounts.served⟩
  · rw [State.send, Multiset.map_cons, Multiset.nodup_cons]
    exact ⟨fresh, accounts.distinct⟩
  · rw [State.send, accounts.pending, Multiset.cons_add]
  · rw [State.send, accounts.requests, Multiset.map_cons]
  · rw [State.send, accounts.issued, Multiset.cons_add]

/-- Serving a request carries out the call it was made of. -/
theorem Linearized.serve (faithful : wire.Faithful performs) {state : State ι κ ρ Q P σ}
    {order : List (ι × Completed ρ)} (linearized : Linearized wire state order) {request : Q}
    {requests : Multiset Q} {reply : P} {next : σ}
    (taken : state.requests = request ::ₘ requests)
    (served : wire.serves request state.node reply next) :
    ∃ later, Replays performs state.node later next ∧
      Linearized wire
        { state with node := next, requests := requests, replies := reply ::ₘ state.replies }
        (order ++ later) := by
  classical
  rcases linearized with ⟨waiting, answered, accounts⟩
  have messages := accounts.requests.symm.trans taken
  rcases (Multiset.map_eq_cons _ _ _ _).mpr messages with ⟨⟨id, call⟩, member, rfl, others⟩
  rcases faithful.carries served with ⟨result, carried, performed⟩
  have split := Multiset.cons_erase member
  refine ⟨[(id, ⟨call, result⟩)], (Replays.nil state.node).snoc performed,
    waiting.erase (id, call), (id, ⟨call, result⟩) ::ₘ answered, accounts.distinct, ?_,
    others.symm, ?_, accounts.issued, ?_⟩
  · rw [accounts.pending, Multiset.map_cons, Multiset.add_cons, ← Multiset.cons_add]
    exact congrArg (· + _) split.symm
  · exact Multiset.Rel.cons carried accounts.replies
  · rw [← Multiset.coe_add, accounts.served, Multiset.add_cons, ← Multiset.singleton_add,
      Multiset.coe_singleton, add_comm]

/-- Receiving a reply takes the outstanding call that it answers, and carries out
nothing. -/
theorem Linearized.receive {state : State ι κ ρ Q P σ} {order : List (ι × Completed ρ)}
    (linearized : Linearized wire state order) {reply : P} {replies : Multiset P} {id : ι}
    {call : κ} {pending : Multiset (ι × κ)} {result : ρ call}
    (taken : state.replies = reply ::ₘ replies)
    (outstanding : state.pending = (id, call) ::ₘ pending)
    (carried : wire.Carries (id, ⟨call, result⟩) reply) :
    Linearized wire
      { state with
        replies := replies
        pending := pending
        delivered := (id, ⟨call, result⟩) ::ₘ state.delivered } order := by
  rcases linearized with ⟨waiting, answered, accounts⟩
  have related := accounts.replies
  rw [taken, Multiset.rel_cons_right] at related
  rcases related with ⟨⟨id', call', result'⟩, answered', carried', related, rfl⟩
  -- The reply names the id, the id names the call, and the call names the result.
  obtain rfl : id' = id := Option.some.inj (carried'.1.symm.trans carried.1)
  have member : (id', call') ∈ state.pending := by
    rw [accounts.pending, Multiset.map_cons]
    exact Multiset.mem_add.mpr (.inr (Multiset.mem_cons_self _ _))
  obtain rfl := call_unique accounts.distinct outstanding member
  obtain rfl : result' = result := Option.some.inj (carried'.2.symm.trans carried.2)
  have left : pending = waiting + answered'.map asked := by
    have both := outstanding.symm.trans accounts.pending
    rw [Multiset.map_cons, Multiset.add_cons] at both
    exact (Multiset.cons_inj_right _).mp both
  have distinct := accounts.distinct
  rw [outstanding, Multiset.map_cons, Multiset.nodup_cons] at distinct
  refine ⟨waiting, answered', distinct.2, left, accounts.requests, related, ?_, ?_⟩
  · rw [accounts.issued, outstanding, Multiset.map_cons, Multiset.cons_add, Multiset.add_cons]
    rfl
  · rw [accounts.served, Multiset.add_cons, Multiset.cons_add]

/-- A step carries out at most one call, after all those before it. -/
theorem Linearized.step (faithful : wire.Faithful performs) {state next : State ι κ ρ Q P σ}
    {order : List (ι × Completed ρ)} (linearized : Linearized wire state order)
    (step : Step wire state next) :
    ∃ later, Replays performs state.node later next.node ∧
      Linearized wire next (order ++ later) := by
  cases step with
  | send fresh =>
      refine ⟨[], .nil _, ?_⟩
      rw [List.append_nil]
      exact linearized.send fresh
  | move moved =>
      cases moved with
      | serve taken served => exact linearized.serve faithful taken served
      | receive taken outstanding carried =>
          refine ⟨[], .nil _, ?_⟩
          rw [List.append_nil]
          exact linearized.receive taken outstanding carried

theorem Linearized.run (faithful : wire.Faithful performs) {state final : State ι κ ρ Q P σ}
    {order : List (ι × Completed ρ)} (linearized : Linearized wire state order)
    (run : Run wire state final) :
    ∃ later, Replays performs state.node later final.node ∧
      Linearized wire final (order ++ later) := by
  induction run with
  | refl => exact ⟨[], .nil _, by rwa [List.append_nil]⟩
  | tail _ step ih =>
      rcases ih with ⟨later, replayed, linearized⟩
      rcases linearized.step faithful step with ⟨last, performed, linearized⟩
      refine ⟨later ++ last, replayed.trans performed, ?_⟩
      rwa [← List.append_assoc]

/-- Once no message is in flight, every call has its result. -/
theorem Linearized.quiet {state : State ι κ ρ Q P σ} {order : List (ι × Completed ρ)}
    (linearized : Linearized wire state order) (quiet : state.Quiet) :
    state.pending = 0 ∧ (order : Multiset (ι × Completed ρ)) = state.delivered := by
  rcases linearized with ⟨waiting, answered, accounts⟩
  have noneWaiting : waiting = 0 :=
    Multiset.map_eq_zero.mp (accounts.requests.symm.trans quiet.1)
  have related := accounts.replies
  rw [quiet.2, Multiset.rel_zero_right] at related
  rw [accounts.pending, accounts.served, noneWaiting, related]
  simp

/-- At any point of a run, and at any later one: the calls carried out so far were issued,
those delivered so far are among them, and the later ones come after them. -/
theorem linearize (faithful : wire.Faithful performs) {start : σ}
    {middle final : State ι κ ρ Q P σ} (before : Run wire (.initial start) middle)
    (after : Run wire middle final) :
    ∃ earlier later, Replays performs start earlier middle.node ∧
      Replays performs middle.node later final.node ∧
      Linearized wire middle earlier ∧ Linearized wire final (earlier ++ later) := by
  rcases (linearized_initial start).run faithful before with ⟨earlier, replayed, linearized⟩
  rw [List.nil_append] at linearized
  rcases linearized.run faithful after with ⟨later, others, extended⟩
  exact ⟨earlier, later, replayed, others, linearized, extended⟩

end Linearization

/-! ## Progress -/

section Progress

variable {wire : Wire ι κ ρ Q P σ} {performs : (call : κ) → σ → ρ call → σ → Prop}

end Progress

end InFlight
