/-
This file gives state machines with guarded events, their runs, and the rule for invariants.
-/

import Mathlib.Tactic

/-- A machine starts in one of its initial states and takes the events that it allows. -/
structure Machine (State Event : Type) where
  initial : State → Prop
  allowed : State → Event → Prop
  next : State → Event → State

namespace Machine

variable {State Event : Type} (machine : Machine State Event)

/-- The events of a run, in order, and the states where it starts and ends. -/
inductive Run (start : State) : List Event → State → Prop where
  | nil : Run start [] start
  | snoc {events : List Event} {state : State} (event : Event) (run : Run start events state)
      (allowed : machine.allowed state event) : Run start (events ++ [event]) (machine.next state event)

/-- Some run from an initial state ends here. -/
def Reachable (state : State) : Prop := ∃ start events, machine.initial start ∧ machine.Run start events state

variable {machine}

theorem Reachable.start {state : State} (initial : machine.initial state) : machine.Reachable state :=
  ⟨state, [], initial, .nil⟩

theorem Reachable.next {state : State} (reachable : machine.Reachable state) {event : Event}
    (allowed : machine.allowed state event) : machine.Reachable (machine.next state event) := by
  obtain ⟨start, events, initial, run⟩ := reachable
  exact ⟨start, events ++ [event], initial, run.snoc event allowed⟩

/-- A property that every allowed event preserves holds along every run. -/
theorem Run.invariant {start state : State} {events : List Event} (run : machine.Run start events state)
    (holds : State → Prop) (base : holds start)
    (step : ∀ state event, holds state → machine.allowed state event → holds (machine.next state event)) :
    holds state := by
  induction run with
  | nil => exact base
  | snoc event _ allowed ih => exact step _ event ih allowed

/-- The machine is deterministic: the events of a run determine where it ends. -/
theorem Run.state_eq {start state : State} {events : List Event} (run : machine.Run start events state) :
    state = events.foldl machine.next start := by
  induction run with
  | nil => rfl
  | snoc event _ _ ih => simp [ih]

variable (machine) in
/-- A run passes through the states where its prefixes end. -/
def Passes (start : State) (events : List Event) (state : State) : Prop :=
  ∃ earlier later, events = earlier ++ later ∧ machine.Run start earlier state

theorem passes_nil {start state : State} : machine.Passes start [] state ↔ state = start := by
  constructor
  · rintro ⟨earlier, later, empty, run⟩
    obtain ⟨rfl, rfl⟩ := List.append_eq_nil_iff.mp empty.symm
    exact run.state_eq
  · rintro rfl
    exact ⟨[], [], rfl, .nil⟩

/-- One more event adds the state after it. -/
theorem Run.passes_snoc {start state middle : State} {events : List Event} {event : Event}
    (run : machine.Run start events state) (allowed : machine.allowed state event) :
    machine.Passes start (events ++ [event]) middle ↔
      machine.Passes start events middle ∨ middle = machine.next state event := by
  constructor
  · rintro ⟨earlier, later, whole, before⟩
    rcases List.eq_nil_or_concat later with rfl | ⟨between, last, rfl⟩
    · rw [List.append_nil] at whole
      subst whole
      exact .inr (before.state_eq.trans (run.snoc event allowed).state_eq.symm)
    · rw [List.concat_eq_append, ← List.append_assoc] at whole
      obtain ⟨rfl, _⟩ := List.append_inj' whole rfl
      exact .inl ⟨earlier, between, rfl, before⟩
  · rintro (⟨earlier, later, rfl, before⟩ | rfl)
    · exact ⟨earlier, later ++ [event], by simp, before⟩
    · exact ⟨events ++ [event], [], by simp, run.snoc event allowed⟩

variable (machine) in
/-- A run takes this event in this state. -/
def Takes (start : State) (events : List Event) (state : State) (event : Event) : Prop :=
  ∃ earlier later, events = earlier ++ event :: later ∧ machine.Run start earlier state

theorem not_takes_nil {start state : State} {event : Event} : ¬ machine.Takes start [] state event := by
  rintro ⟨earlier, later, empty, _⟩
  simp at empty

/-- One more event is the last one that the run takes. -/
theorem Run.takes_snoc {start state middle : State} {events : List Event} {last event : Event}
    (run : machine.Run start events state) :
    machine.Takes start (events ++ [last]) middle event ↔
      machine.Takes start events middle event ∨ middle = state ∧ event = last := by
  constructor
  · rintro ⟨earlier, later, whole, before⟩
    rcases List.eq_nil_or_concat later with rfl | ⟨between, final, rfl⟩
    · obtain ⟨rfl, same⟩ := List.append_inj' whole rfl
      cases same
      exact .inr ⟨before.state_eq.trans run.state_eq.symm, rfl⟩
    · rw [List.concat_eq_append, ← List.cons_append, ← List.append_assoc] at whole
      obtain ⟨rfl, _⟩ := List.append_inj' whole rfl
      exact .inl ⟨earlier, between, rfl, before⟩
  · rintro (⟨earlier, later, rfl, before⟩ | ⟨rfl, rfl⟩)
    · exact ⟨earlier, later ++ [last], by simp, before⟩
    · exact ⟨events, [], rfl, run⟩

variable (machine) in
/-- No step of the run is of this kind. -/
def Avoids (start : State) (events : List Event) (bad : State → Event → Prop) : Prop :=
  ∀ state event, machine.Takes start events state event → ¬ bad state event

theorem avoids_nil {start : State} {bad : State → Event → Prop} : machine.Avoids start [] bad :=
  fun _ _ taken => absurd taken not_takes_nil

theorem Avoids.of_append {start : State} {earlier later : List Event} {bad : State → Event → Prop}
    (avoids : machine.Avoids start (earlier ++ later) bad) : machine.Avoids start earlier bad := by
  rintro state event ⟨front, back, rfl, run⟩
  exact avoids state event ⟨front, back ++ later, by simp, run⟩

theorem Run.avoids_snoc {start state : State} {events : List Event} {last : Event} {bad : State → Event → Prop}
    (run : machine.Run start events state) :
    machine.Avoids start (events ++ [last]) bad ↔ machine.Avoids start events bad ∧ ¬ bad state last := by
  constructor
  · intro avoids
    exact ⟨fun middle event taken => avoids middle event (run.takes_snoc.mpr (.inl taken)),
      avoids state last (run.takes_snoc.mpr (.inr ⟨rfl, rfl⟩))⟩
  · rintro ⟨earlier, final⟩ middle event taken
    obtain inside | ⟨rfl, rfl⟩ := run.takes_snoc.mp taken
    · exact earlier middle event inside
    · exact final

/-- A property that every other step preserves holds along a run that avoids one kind of steps. -/
theorem Run.invariant_avoiding {start state : State} {events : List Event} {bad : State → Event → Prop}
    (run : machine.Run start events state) (avoids : machine.Avoids start events bad) (holds : State → Prop)
    (base : holds start)
    (step : ∀ state event, holds state → ¬ bad state event → holds (machine.next state event)) : holds state := by
  induction run with
  | nil => exact base
  | snoc event before _ ih =>
      obtain ⟨earlier, good⟩ := before.avoids_snoc.mp avoids
      exact step _ event (ih earlier) good

/-- A property that every bad step establishes and every step preserves holds after a run with a bad step. -/
theorem Run.invariant_after {start state : State} {events : List Event} {bad : State → Event → Prop}
    (run : machine.Run start events state) (reached : ¬ machine.Avoids start events bad)
    (holds : List Event → State → Prop)
    (establish : ∀ events state event, machine.Run start events state → machine.allowed state event →
      bad state event → holds (events ++ [event]) (machine.next state event))
    (step : ∀ events state event, machine.Run start events state → machine.allowed state event →
      holds events state → holds (events ++ [event]) (machine.next state event)) : holds events state := by
  induction run with
  | nil => exact absurd avoids_nil reached
  | snoc event before allowed ih =>
      rename_i events state
      by_cases earlier : machine.Avoids start events bad
      · have last : bad state event := by
          by_contra good
          exact reached (before.avoids_snoc.mpr ⟨earlier, good⟩)
        exact establish events state event before allowed last
      · exact step events state event before allowed (ih earlier)

section Notes

variable {Note : Type} (machine) (observe : State → Event → Option Note)

/-- What an observer notes along the events. -/
def notes : State → List Event → List Note
  | _, [] => []
  | state, event :: events => (observe state event).toList ++ notes (machine.next state event) events

variable {machine}

/-- One more event adds its own note. -/
theorem Run.notes_snoc {start state : State} {events : List Event} (run : machine.Run start events state)
    (event : Event) : machine.notes observe start (events ++ [event]) =
      machine.notes observe start events ++ (observe state event).toList := by
  rw [run.state_eq]
  clear run
  induction events generalizing start with
  | nil => simp [notes]
  | cons first events ih => simp only [List.cons_append, notes, ih, List.append_assoc, List.foldl_cons]

/-- Every note is about one of the events. -/
theorem exists_of_mem_notes {observe : State → Event → Option Note} {start : State} {events : List Event} {note : Note}
    (noted : note ∈ machine.notes observe start events) : ∃ event ∈ events, ∃ state, observe state event = some note := by
  induction events generalizing start with
  | nil => cases noted
  | cons event events ih =>
      obtain first | later := List.mem_append.mp noted
      · exact ⟨event, List.mem_cons_self, start, Option.mem_toList.mp first⟩
      · obtain ⟨other, member, state, observed⟩ := ih later
        exact ⟨other, List.mem_cons_of_mem event member, state, observed⟩

/-- A property of the state and the notes that every allowed event keeps holds along every run. -/
theorem Run.invariant_noted {observe : State → Event → Option Note} {start state : State} {events : List Event}
    (run : machine.Run start events state) (holds : State → List Note → Prop) (base : holds start [])
    (step : ∀ state noted event, holds state noted → machine.allowed state event →
      holds (machine.next state event) (noted ++ (observe state event).toList)) :
    holds state (machine.notes observe start events) := by
  induction run with
  | nil => exact base
  | snoc event before allowed ih =>
      rw [before.notes_snoc]
      exact step _ _ event ih allowed

end Notes

theorem Run.passes_end {start state : State} {events : List Event} (run : machine.Run start events state) :
    machine.Passes start events state :=
  ⟨events, [], by simp, run⟩

/-- A property of the initial states that every allowed event preserves holds in every reachable state.
The step may use that the state before it is reachable. -/
theorem Reachable.invariant {state : State} (reachable : machine.Reachable state) (holds : State → Prop)
    (base : ∀ state, machine.initial state → holds state)
    (step : ∀ state event, machine.Reachable state → holds state → machine.allowed state event →
      holds (machine.next state event)) : holds state := by
  obtain ⟨start, events, initial, run⟩ := reachable
  have both : machine.Reachable state ∧ holds state := by
    refine run.invariant (fun state => machine.Reachable state ∧ holds state) ⟨.start initial, base start initial⟩ ?_
    rintro state event ⟨reachable, holding⟩ allowed
    exact ⟨reachable.next allowed, step state event reachable holding allowed⟩
  exact both.2

/-- Every event of a list is allowed where it is taken. -/
def valid (machine : Machine State Event) [∀ state event, Decidable (machine.allowed state event)] :
    State → List Event → Bool
  | _, [] => true
  | state, event :: events => decide (machine.allowed state event) && valid machine (machine.next state event) events

/-- A checked list of events is a run. -/
theorem run_of_valid [∀ state event, Decidable (machine.allowed state event)] {start state : State}
    {earlier events : List Event} (run : machine.Run start earlier state) (checked : machine.valid state events = true) :
    machine.Run start (earlier ++ events) (events.foldl machine.next state) := by
  induction events generalizing earlier state with
  | nil => simpa using run
  | cons event events ih =>
      simp only [valid, Bool.and_eq_true, decide_eq_true_eq] at checked
      simpa using ih (run.snoc event checked.1) checked.2

/-- A machine that allows every event takes any events. -/
theorem run_of_free (free : ∀ state event, machine.allowed state event) (start : State) (events : List Event) :
    machine.Run start events (events.foldl machine.next start) := by
  induction events using List.reverseRecOn with
  | nil => exact .nil
  | append_singleton events event ih =>
      rw [List.foldl_append]
      exact ih.snoc event (free _ _)

theorem Reachable.of_valid [∀ state event, Decidable (machine.allowed state event)] {start : State}
    (initial : machine.initial start) {events : List Event} (checked : machine.valid start events = true) :
    machine.Reachable (events.foldl machine.next start) :=
  ⟨start, events, initial, run_of_valid (.nil : machine.Run start [] start) checked⟩

/-- No event of a list is of the bad kind where it is taken. -/
def avoids (machine : Machine State Event) (bad : State → Event → Prop) [∀ state event, Decidable (bad state event)] :
    State → List Event → Bool
  | _, [] => true
  | state, event :: events => decide (¬ bad state event) && avoids machine bad (machine.next state event) events

/-- A checked list of events avoids the bad kind. -/
theorem avoids_of_checked {bad : State → Event → Prop} [∀ state event, Decidable (bad state event)] {start : State}
    {events : List Event} (checked : machine.avoids bad start events = true) : machine.Avoids start events bad := by
  rintro state event ⟨earlier, later, rfl, run⟩
  rw [run.state_eq]
  clear run
  induction earlier generalizing start with
  | nil =>
      simp only [List.nil_append, avoids, Bool.and_eq_true, decide_eq_true_eq] at checked
      exact checked.1
  | cons first earlier ih =>
      simp only [List.cons_append, avoids, Bool.and_eq_true] at checked
      exact ih checked.2

end Machine
