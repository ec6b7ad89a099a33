import Mathlib

/-!
# Holds on shared items

Callers hold items under handles, each hold until it is released or its time is over.  A
hold is granted on all of its items at once, and only when no live hold has one of them.
The handle is free to be one that is in use, in which case the earlier hold is lost.  At
no time do two live holds share an item, and two grants of one item have the end of the
first hold between them.
-/

namespace Holds

variable {η ι : Type}

/-- Items that are held until a time. -/
structure Hold (ι : Type) where
  items : List ι
  expires : Nat

/-- The hold is not over at the time. -/
def Hold.Live (now : Nat) (hold : Hold ι) : Prop := now < hold.expires

/-- What is held under each handle. -/
abbrev Table (η ι : Type) : Type := η → Option (Hold ι)

/-- What can happen to a table. -/
inductive Event (η ι : Type) where
  | grant (handle : η) (hold : Hold ι)
  | release (handle : η)

/-- The handle an event is about. -/
def Event.handle : Event η ι → η
  | .grant handle _ => handle
  | .release handle => handle

section Tables

variable (now : Nat) (table : Table η ι)

/-- A live hold has the item. -/
def Held (item : ι) : Prop :=
  ∃ handle hold, table handle = some hold ∧ hold.Live now ∧ item ∈ hold.items

/-- No two live holds share an item. -/
def Exclusive : Prop :=
  ∀ left right leftHold rightHold, table left = some leftHold → table right = some rightHold →
    leftHold.Live now → rightHold.Live now → ∀ item ∈ leftHold.items, item ∈ rightHold.items →
      left = right

end Tables

variable [DecidableEq η]

/-- What an event makes of a table. -/
def Event.apply (table : Table η ι) : Event η ι → Table η ι
  | .grant handle hold => Function.update table handle (some hold)
  | .release handle => Function.update table handle none

/-- An event can happen: a grant is of items that no live hold has. -/
def Event.Allowed (now : Nat) (table : Table η ι) : Event η ι → Prop
  | .grant _ hold => ∀ item ∈ hold.items, ¬Held now table item
  | .release _ => True

/-- The events happen one after the other, at times that never go back. -/
inductive Run : Nat → Table η ι → List (Nat × Event η ι) → Table η ι → Prop
  | nil {now : Nat} {table : Table η ι} : Run now table [] table
  | cons {now later : Nat} {table final : Table η ι} {event : Event η ι}
      {rest : List (Nat × Event η ι)} (time : now ≤ later)
      (allowed : event.Allowed later table) (others : Run later (event.apply table) rest final) :
      Run now table ((later, event) :: rest) final

/-! ## One event -/

section Step

variable {now later : Nat} {table : Table η ι}

omit [DecidableEq η] in
theorem Hold.Live.before {hold : Hold ι} (live : hold.Live later) (time : now ≤ later) :
    hold.Live now :=
  Nat.lt_of_le_of_lt time live

omit [DecidableEq η] in
theorem Exclusive.mono (exclusive : Exclusive now table) (time : now ≤ later) :
    Exclusive later table := by
  intro left right leftHold rightHold leftAt rightAt leftLive rightLive
  exact exclusive left right leftHold rightHold leftAt rightAt (leftLive.before time)
    (rightLive.before time)

theorem Event.apply_of_ne {event : Event η ι} {handle : η} (other : event.handle ≠ handle) :
    event.apply table handle = table handle := by
  cases event with
  | grant touched hold => exact Function.update_of_ne other.symm _ _
  | release touched => exact Function.update_of_ne other.symm _ _

/-- An event keeps live holds apart. -/
theorem Event.exclusive {event : Event η ι} (allowed : event.Allowed now table)
    (exclusive : Exclusive now table) : Exclusive now (event.apply table) := by
  intro left right leftHold rightHold leftAt rightAt leftLive rightLive item leftHas rightHas
  cases event with
  | release touched =>
      have kept {handle : η} {hold : Hold ι}
          (found : (Event.release touched).apply table handle = some hold) :
          table handle = some hold := by
        by_cases same : handle = touched
        · rw [same, apply, Function.update_self] at found
          cases found
        · rwa [apply_of_ne (Ne.symm same)] at found
      exact exclusive left right _ _ (kept leftAt) (kept rightAt) leftLive rightLive item leftHas
        rightHas
  | grant touched granted =>
      -- A hold that is not the granted one was there before, and shares nothing with it.
      have clash {handle : η} {hold : Hold ι} (other : handle ≠ touched)
          (found : (Event.grant touched granted).apply table handle = some hold)
          (live : hold.Live now) (has : item ∈ hold.items) (shared : item ∈ granted.items) :
          False := by
        rw [apply_of_ne (Ne.symm other)] at found
        exact allowed item shared ⟨handle, hold, found, live, has⟩
      have granted_of_eq {hold : Hold ι}
          (found : (Event.grant touched granted).apply table touched = some hold) :
          hold = granted := by
        rw [apply, Function.update_self] at found
        exact (Option.some.inj found).symm
      by_cases leftNew : left = touched
      · by_cases rightNew : right = touched
        · rw [leftNew, rightNew]
        · rw [leftNew] at leftAt
          rw [granted_of_eq leftAt] at leftHas
          exact (clash rightNew rightAt rightLive rightHas leftHas).elim
      · by_cases rightNew : right = touched
        · rw [rightNew] at rightAt
          rw [granted_of_eq rightAt] at rightHas
          exact (clash leftNew leftAt leftLive leftHas rightHas).elim
        · rw [apply_of_ne (Ne.symm leftNew)] at leftAt
          rw [apply_of_ne (Ne.symm rightNew)] at rightAt
          exact exclusive left right _ _ leftAt rightAt leftLive rightLive item leftHas rightHas

/-- What is held after a release was held before. -/
theorem Held.of_release {handle : η} {item : ι}
    (held : Held now ((Event.release handle).apply table) item) : Held now table item := by
  rcases held with ⟨other, kept, found, live, has⟩
  by_cases same : other = handle
  · rw [same, Event.apply, Function.update_self] at found
    cases found
  · rw [Event.apply_of_ne (Ne.symm same)] at found
    exact ⟨other, kept, found, live, has⟩

/-- After a grant the items of its hold are held until it is over, and what else was held but
not by a hold under its handle. -/
theorem held_grant_iff {handle : η} {hold : Hold ι} {item : ι} :
    Held now ((Event.grant handle hold).apply table) item ↔
      item ∈ hold.items ∧ hold.Live now ∨
        Held now ((Event.release handle).apply table) item := by
  constructor
  · rintro ⟨other, kept, found, live, has⟩
    by_cases same : other = handle
    · rw [same, Event.apply, Function.update_self, Option.some.injEq] at found
      subst found
      exact .inl ⟨has, live⟩
    · rw [Event.apply_of_ne (Ne.symm same)] at found
      refine .inr ⟨other, kept, ?_, live, has⟩
      rwa [Event.apply_of_ne (Ne.symm same)]
  · rintro (⟨has, live⟩ | ⟨other, kept, found, live, has⟩)
    · exact ⟨handle, hold, Function.update_self _ _ _, live, has⟩
    · have differs : other ≠ handle := by
        rintro rfl
        rw [Event.apply, Function.update_self] at found
        cases found
      rw [Event.apply_of_ne (Ne.symm differs)] at found
      refine ⟨other, kept, ?_, live, has⟩
      rwa [Event.apply_of_ne (Ne.symm differs)]

/-- A grant of items that are not held makes them held if its time has not come. -/
theorem held_grant_of_free {handle : η} {hold : Hold ι} {item : ι} (has : item ∈ hold.items)
    (free : ¬Held now table item) :
    Held now ((Event.grant handle hold).apply table) item ↔ hold.Live now := by
  rw [held_grant_iff]
  constructor
  · rintro (⟨_, live⟩ | held)
    · exact live
    · exact absurd held.of_release free
  · intro live
    exact .inl ⟨has, live⟩

/-- To release a live hold frees its items and no others. -/
theorem held_release_iff (exclusive : Exclusive now table) {handle : η} {hold : Hold ι}
    (found : table handle = some hold) (live : hold.Live now) (item : ι) :
    Held now ((Event.release handle).apply table) item ↔
      Held now table item ∧ item ∉ hold.items := by
  constructor
  · rintro ⟨other, kept, stored, keptLive, has⟩
    by_cases same : other = handle
    · rw [same, Event.apply, Function.update_self] at stored
      cases stored
    · rw [Event.apply_of_ne (Ne.symm same)] at stored
      refine ⟨⟨other, kept, stored, keptLive, has⟩, fun shared => same ?_⟩
      exact exclusive other handle kept hold stored found keptLive live item has shared
  · rintro ⟨⟨other, kept, stored, keptLive, has⟩, outside⟩
    have differs : other ≠ handle := by
      rintro rfl
      rw [found] at stored
      exact outside (Option.some.inj stored ▸ has)
    refine ⟨other, kept, ?_, keptLive, has⟩
    rwa [Event.apply_of_ne (Ne.symm differs)]

end Step

/-! ## Whole runs -/

section Runs

variable {now : Nat} {table final : Table η ι} {events : List (Nat × Event η ι)}

/-- Live holds stay apart, at every time after the last event. -/
theorem Run.exclusive (run : Run now table events final) (exclusive : Exclusive now table)
    {later : Nat} (time : now ≤ later) (last : ∀ event ∈ events, event.1 ≤ later) :
    Exclusive later final := by
  induction run with
  | nil => exact exclusive.mono time
  | cons before allowed _ ih =>
      rw [List.forall_mem_cons] at last
      exact ih (Event.exclusive allowed (exclusive.mono before)) last.1 last.2

/-- A run of two parts is a run of each. -/
theorem Run.of_append {front back : List (Nat × Event η ι)}
    (run : Run now table (front ++ back) final) :
    ∃ time middle, now ≤ time ∧ Run now table front middle ∧ Run time middle back final := by
  induction front generalizing now table with
  | nil => exact ⟨now, table, le_rfl, .nil, run⟩
  | cons event rest ih =>
      cases run with
      | cons time allowed others =>
          rcases ih others with ⟨halfway, middle, order, first, second⟩
          exact ⟨halfway, middle, time.trans order, .cons time allowed first, second⟩

/-- A hold stays as long as no event is about its handle. -/
theorem Run.keeps (run : Run now table events final) {handle : η}
    (untouched : ∀ event ∈ events, event.2.handle ≠ handle) : final handle = table handle := by
  induction run with
  | nil => rfl
  | cons _ _ _ ih =>
      rw [List.forall_mem_cons] at untouched
      rw [ih untouched.2, Event.apply_of_ne untouched.1]

/-- Between two grants of one item the first hold has come to its end: its time is over, or
an event was about its handle. -/
theorem Run.between_grants {front middle back : List (Nat × Event η ι)} {first second : Nat}
    {left right : η} {leftHold rightHold : Hold ι}
    (run : Run now table
      (front ++ (first, .grant left leftHold) :: middle ++
        (second, .grant right rightHold) :: back) final)
    {item : ι} (leftHas : item ∈ leftHold.items) (rightHas : item ∈ rightHold.items) :
    leftHold.expires ≤ second ∨ ∃ event ∈ middle, event.2.handle = left := by
  by_contra lasting
  rw [not_or, Nat.not_le, not_exists] at lasting
  have untouched : ∀ event ∈ middle, event.2.handle ≠ left := fun event member about =>
    lasting.2 event ⟨member, about⟩
  rcases run.of_append with ⟨_, between, _, before, after⟩
  rcases before.of_append with ⟨_, _, _, _, granted⟩
  cases granted with
  | cons _ _ kept =>
      cases after with
      | cons _ allowed _ =>
          have stands : between left = some leftHold := by
            rw [kept.keeps untouched, Event.apply, Function.update_self]
          exact allowed item rightHas ⟨left, leftHold, stands, lasting.1, leftHas⟩

end Runs

end Holds
