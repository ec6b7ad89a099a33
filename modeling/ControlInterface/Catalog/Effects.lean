import ControlInterface.Catalog.Sessions
import ControlInterface.Unwinding

/-!
# Nodes that keep a state

What requests do to the state of a node is what the calls do that they come to, one after
the other.  This holds of requests served in turn, and of calls in flight at the same
time; so what every call keeps holds in every state that either of them reaches.
-/

namespace ControlInterface

open Serde InFlight

/-- The call is one that some JSON comes to: its params are as the node hands them to the
handler method. -/
def Accepted (env : Environment) (call : HandlerCall) : Prop :=
  ∃ params, call.1.accept env params = .ok call.2

namespace ControlHandler

variable {σ : Type} (handler : ControlHandler (StateM σ))

/-- How a handler method answers a call. -/
def answer (call : HandlerCall) (state : σ) : Except ControlError call.1.Output :=
  ((call.1.serve handler call.2).run.run state).1

/-- The state after a call. -/
def effect (call : HandlerCall) (state : σ) : σ :=
  ((call.1.serve handler call.2).run.run state).2

/-- The state after calls that are made one after the other. -/
def effects (state : σ) (calls : List HandlerCall) : σ :=
  calls.foldl (fun state call => handler.effect call state) state

theorem effects_append (state : σ) (front back : List HandlerCall) :
    handler.effects state (front ++ back) = handler.effects (handler.effects state front) back :=
  List.foldl_append

/-- What every accepted call keeps, accepted calls keep one after the other. -/
theorem effects_keep {env : Environment} {P : σ → Prop}
    (kept : ∀ call state, Accepted env call → P state → P (handler.effect call state))
    {calls : List HandlerCall} (accepted : ∀ call ∈ calls, Accepted env call) {start : σ}
    (holds : P start) : P (handler.effects start calls) := by
  induction calls generalizing start with
  | nil => exact holds
  | cons call rest ih =>
      rw [List.forall_mem_cons] at accepted
      exact ih accepted.2 (kept call start accepted.1 holds)

end ControlHandler

open ControlHandler

/-! ## Requests served in turn -/

section Runs

variable {σ : Type} {env : Environment} (handler : ControlHandler (StateM σ))

theorem accepted_of_mem_callsOf {request : JsonRpcRequest} {call : HandlerCall}
    (member : call ∈ callsOf env request) : Accepted env call := by
  rcases interpret_cases env request with ⟨error, refused⟩ | ⟨H, params, _, accepted, found⟩
  · rw [callsOf, refused] at member
    cases member
  · rw [callsOf, found] at member
    obtain rfl : call = ⟨H, params⟩ := List.mem_singleton.mp member
    exact ⟨_, accepted⟩

theorem accepted_of_mem {requests : List JsonRpcRequest} :
    ∀ call ∈ requests.flatMap (callsOf env), Accepted env call := by
  intro call member
  rcases List.mem_flatMap.mp member with ⟨request, _, inside⟩
  exact accepted_of_mem_callsOf inside

/-- A request that comes to a call is answered as the call is. -/
theorem run_dispatch {request : JsonRpcRequest} {call : HandlerCall}
    (found : interpret env request = .ok call) (state : σ) :
    (handler.dispatch env request).run state =
      (respond request.id (handler.answer call state), handler.effect call state) := by
  rcases call with ⟨H, params⟩
  rcases interpret_eq_ok found with ⟨named, accepted⟩
  rw [dispatch_accepted env handler request named accepted, StateT.run_map]
  rfl

theorem dispatch_effects (request : JsonRpcRequest) (state : σ) :
    ((handler.dispatch env request).run state).2 =
      handler.effects state (callsOf env request) := by
  rcases interpret_cases env request with ⟨error, refused⟩ | ⟨H, params, _, _, found⟩
  · rw [dispatch_of_error handler refused, callsOf, refused]
    rfl
  · rw [run_dispatch handler found, callsOf, found]
    rfl

/-- The state after requests is the state after their calls. -/
theorem serveAll_effects (requests : List JsonRpcRequest) (state : σ) :
    ((serveAll env handler requests).run state).2 =
      handler.effects state (requests.flatMap (callsOf env)) := by
  induction requests generalizing state with
  | nil => rfl
  | cons request rest ih =>
      rw [List.flatMap_cons, effects_append, ← dispatch_effects, ← ih]
      rfl

/-- Requests served in turn are a run of the node. -/
theorem serveAll_eq_run (requests : List JsonRpcRequest) (state : σ) :
    (serveAll env handler requests).run state =
      Unwinding.run (fun request => (handler.dispatch env request).run) requests state := by
  induction requests generalizing state with
  | nil => rfl
  | cons request rest ih =>
      rw [Unwinding.run_cons, ← ih]
      rfl

end Runs

/-! ## Calls in flight -/

section Sessions

variable {σ : Type} {env : Environment} (handler : ControlHandler (StateM σ))

/-- To carry out a call is to make an accepted call, or none. -/
theorem Performs.effects {call : TypedCall} {state next : σ} {outcome : Outcome call}
    (performed : Performs env handler call state outcome next) :
    ∃ calls, (∀ made ∈ calls, Accepted env made) ∧ next = handler.effects state calls := by
  cases performed with
  | refused invalid isRefusal => exact ⟨[], by simp, rfl⟩
  | @served C given params _ _ outcome valid answered =>
      refine ⟨[⟨.bound C, params⟩], ?_, ?_⟩
      · intro made member
        rw [List.mem_singleton.mp member]
        exact ⟨toValue given, (C.binding.node env).accept_toValue.mpr valid⟩
      · exact (congrArg Prod.snd answered).symm

theorem replays_effects {history : List (RequestId × Completed Outcome)} {state next : σ}
    (replayed : Replays (Performs env handler) state history next) :
    ∃ calls, (∀ made ∈ calls, Accepted env made) ∧ next = handler.effects state calls := by
  induction replayed with
  | nil => exact ⟨[], by simp, rfl⟩
  | snoc _ performed ih =>
      rcases ih with ⟨front, frontAccepted, rfl⟩
      rcases performed.effects handler with ⟨last, lastAccepted, rfl⟩
      refine ⟨front ++ last, ?_, (effects_append handler _ front last).symm⟩
      intro made member
      exact (List.mem_append.mp member).elim (frontAccepted made) (lastAccepted made)

/-- With any number of calls in flight, the node is at every point in a state that accepted
calls lead to when they are made one after the other. -/
theorem run_effects {start : σ} {state : State RequestId TypedCall Outcome Json Json σ}
    (run : Run (jsonWire env handler) (.initial start) state) :
    ∃ calls, (∀ made ∈ calls, Accepted env made) ∧ state.node = handler.effects start calls := by
  rcases linearize (jsonWire_faithful env handler) run .refl with ⟨_, _, replayed, _⟩
  exact replays_effects handler replayed

end Sessions

end ControlInterface
