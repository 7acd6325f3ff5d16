/-
This file gives spaced times, and loops that try again within a window and rest after each failure.
-/

import RepriseP2p.Foundation.Machine

/-- Each time is at least the gap after the one before it. -/
def Spaced (gap : Nat) (times : List Nat) : Prop := times.IsChain fun earlier later => earlier + gap ≤ later

theorem spaced_nil {gap : Nat} : Spaced gap [] := .nil

theorem spaced_snoc {gap time : Nat} {times : List Nat} :
    Spaced gap (times ++ [time]) ↔ Spaced gap times ∧ ∀ last ∈ times.getLast?, last + gap ≤ time := by
  simp [Spaced, List.isChain_append]

/-- Spaced times span their gaps. -/
theorem Spaced.span {gap first : Nat} {times : List Nat} (spaced : Spaced gap (first :: times)) :
    ∃ last ∈ first :: times, first + times.length * gap ≤ last := by
  induction times generalizing first with
  | nil => exact ⟨first, by simp, by simp⟩
  | cons second times ih =>
      obtain ⟨near, spaced⟩ := List.isChain_cons_cons.mp spaced
      obtain ⟨last, member, far⟩ := ih spaced
      refine ⟨last, List.mem_cons_of_mem first member, ?_⟩
      rw [List.length_cons, Nat.succ_mul]
      omega

/-- A window holds at most one time more than it holds gaps. -/
theorem Spaced.length_lt {gap low window : Nat} {times : List Nat} (spaced : Spaced gap times) (positive : 0 < gap)
    (inside : ∀ time ∈ times, low ≤ time ∧ time < low + window) : times.length * gap < window + gap := by
  cases times with
  | nil => simpa using Nat.add_pos_right window positive
  | cons first times =>
      obtain ⟨last, member, far⟩ := spaced.span
      have early := (inside first List.mem_cons_self).1
      have late := (inside last member).2
      rw [List.length_cons, Nat.succ_mul]
      omega

namespace RetryLoop

/-- Where a loop is: before its first attempt, in an attempt, in the rest after a failure, or somewhere else. -/
inductive Phase where
  | outside
  | waiting (wakeUp : Nat)
  | trying (deadline : Nat)
  | resting (deadline wakeUp : Nat)
  deriving DecidableEq

def Phase.tries : Phase → Bool
  | .trying _ => true
  | _ => false

/-- One step at this time. The window opens with the first attempt, and nothing leads back into the loop. -/
inductive Step (window rest now : Nat) : Phase → Phase → Prop where
  | stay (phase : Phase) : Step window rest now phase phase
  | leave (phase : Phase) : Step window rest now phase .outside
  | begin (wakeUp : Nat) (woken : wakeUp ≤ now) : Step window rest now (.waiting wakeUp) (.trying (now + window))
  | fail (deadline : Nat) : Step window rest now (.trying deadline) (.resting deadline (now + rest))
  | again (deadline wakeUp : Nat) (woken : wakeUp ≤ now) (early : now < deadline) :
      Step window rest now (.resting deadline wakeUp) (.trying deadline)

/-- The attempt that starts in a step. -/
def attempt (now : Nat) (phase next : Phase) : Option Nat :=
  if next.tries && !phase.tries then some now else none

/-- The attempts of a loop so far, none of them after the last of these events. -/
structure Spent (window rest wakeUp : Nat) (phase : Phase) (times events : List Nat) : Prop where
  spaced : Spaced rest times
  happened : ∀ time ∈ times, time ∈ events
  late : ∀ time ∈ times, wakeUp ≤ time
  early : ∀ first ∈ times.head?, ∀ time ∈ times, first ≤ time ∧ time < first + window
  waiting : ∀ wake, phase = .waiting wake → wake = wakeUp ∧ times = []
  trying : ∀ deadline, phase = .trying deadline → ∃ first ∈ times.head?, deadline = first + window
  resting : ∀ deadline wake, phase = .resting deadline wake →
    (∃ first ∈ times.head?, deadline = first + window) ∧ ∀ time ∈ times, time + rest ≤ wake

variable {window rest wakeUp now : Nat} {phase next : Phase} {times events : List Nat}

/-- A step that starts no attempt. -/
theorem Spent.quiet (spent : Spent window rest wakeUp phase times events)
    (waiting : ∀ wake, next = .waiting wake → wake = wakeUp ∧ times = [])
    (trying : ∀ deadline, next = .trying deadline → ∃ first ∈ times.head?, deadline = first + window)
    (resting : ∀ deadline wake, next = .resting deadline wake →
      (∃ first ∈ times.head?, deadline = first + window) ∧ ∀ time ∈ times, time + rest ≤ wake) :
    Spent window rest wakeUp next times (events ++ [now]) :=
  ⟨spent.spaced, fun time member => List.mem_append_left _ (spent.happened time member), spent.late, spent.early,
    waiting, trying, resting⟩

/-- A step of the loop while the clock does not decrease. -/
theorem Spent.step (spent : Spent window rest wakeUp phase times events) (positive : 0 < window)
    (taken : Step window rest now phase next) (ordered : ∀ time ∈ events, time ≤ now) :
    Spent window rest wakeUp next (times ++ (attempt now phase next).toList) (events ++ [now]) := by
  cases taken with
  | stay =>
      have none : attempt now phase phase = none := by simp [attempt]
      rw [none, Option.toList_none, List.append_nil]
      exact spent.quiet spent.waiting spent.trying spent.resting
  | leave =>
      rw [show attempt now phase .outside = none from rfl, Option.toList_none, List.append_nil]
      exact spent.quiet (by simp) (by simp) (by simp)
  | begin wake woken =>
      obtain ⟨rfl, rfl⟩ := spent.waiting wake rfl
      rw [show attempt now (.waiting wake) (.trying (now + window)) = some now from rfl]
      refine ⟨by simp [Spaced], by simp, by simpa using woken, ?_, by simp, ?_, by simp⟩
      · simpa using positive
      · intro deadline same
        cases same
        exact ⟨now, by simp, rfl⟩
  | fail deadline =>
      obtain ⟨first, head, same⟩ := spent.trying deadline rfl
      rw [show attempt now (.trying deadline) (.resting deadline (now + rest)) = none from rfl, Option.toList_none,
        List.append_nil]
      refine spent.quiet (by simp) (by simp) ?_
      intro other wake equal
      cases equal
      refine ⟨⟨first, head, same⟩, fun time member => ?_⟩
      exact Nat.add_le_add_right (ordered time (spent.happened time member)) rest
  | again deadline wake woken early =>
      obtain ⟨⟨first, head, same⟩, rested⟩ := spent.resting deadline wake rfl
      rw [show attempt now (.resting deadline wake) (.trying deadline) = some now from rfl, Option.toList_some]
      have kept : (times ++ [now]).head? = some first := by
        rw [List.head?_append, Option.mem_def.mp head, Option.some_or]
      have opened := spent.late first (List.mem_of_mem_head? head)
      have before := ordered first (spent.happened first (List.mem_of_mem_head? head))
      refine ⟨spaced_snoc.mpr ⟨spent.spaced, ?_⟩, ?_, ?_, ?_, by simp, ?_, by simp⟩
      · intro last final
        exact (rested last (List.mem_of_mem_getLast? final)).trans woken
      · intro time member
        obtain old | new := List.mem_append.mp member
        · exact List.mem_append_left _ (spent.happened time old)
        · exact List.mem_append_right _ new
      · intro time member
        obtain old | new := List.mem_append.mp member
        · exact spent.late time old
        · rw [List.mem_singleton.mp new]
          exact opened.trans before
      · intro other mine time member
        cases kept.symm.trans mine
        obtain old | new := List.mem_append.mp member
        · exact spent.early first head time old
        · rw [List.mem_singleton.mp new, ← same]
          exact ⟨before, early⟩
      · intro other equal
        cases equal
        exact ⟨first, kept, same⟩

/-- The deadline of a window that is open. -/
def Phase.closes : Phase → Option Nat
  | .trying deadline | .resting deadline _ => some deadline
  | _ => none

/-- The loop waits until one of these times, and its window opens at most this late. -/
structure Phase.Opens (window low high late : Nat) (phase : Phase) : Prop where
  waits : ∀ wake, phase = .waiting wake → low ≤ wake ∧ wake ≤ high
  closes : ∀ deadline, phase.closes = some deadline → low + window ≤ deadline ∧ deadline ≤ high + late + window

theorem Phase.Opens.outside {low high late : Nat} : Phase.outside.Opens window low high late where
  waits _ waiting := by cases waiting
  closes _ closing := by cases closing

/-- A window that opens in time closes in time. -/
theorem Phase.Opens.step {low high late : Nat} (opens : phase.Opens window low high late)
    (taken : Step window rest now phase next) (prompt : ∀ wake, phase = .waiting wake → now ≤ wake + late) :
    next.Opens window low high late := by
  cases taken with
  | stay => exact opens
  | leave => exact .outside
  | begin wake woken =>
      obtain ⟨early, soon⟩ := opens.waits wake rfl
      have onTime := prompt wake rfl
      refine ⟨by simp, fun deadline same => ?_⟩
      cases same
      omega
  | fail deadline => exact ⟨by simp, fun other same => opens.closes other same⟩
  | again deadline wake => exact ⟨by simp, fun other same => opens.closes other same⟩

variable {State Event : Type} {machine : Machine State Event} (phaseOf : State → Phase) (time : Event → Nat)

/-- The times of the attempts of a run, oldest first. -/
def attempts (machine : Machine State Event) (start : State) (events : List Event) : List Nat :=
  machine.notes (fun state event => attempt (time event) (phaseOf state) (phaseOf (machine.next state event))) start
    events

/-- A run that starts before the first attempt of its loop spends attempts only in one window, with rests between. -/
theorem spent_of_run {start state : State} {events : List Event} (ran : machine.Run start events state)
    (positive : 0 < window) (waiting : phaseOf start = .waiting wakeUp)
    (ordered : events.Pairwise fun earlier later => time earlier ≤ time later)
    (loops : ∀ earlier middle event, machine.Run start earlier middle → machine.allowed middle event →
      Step window rest (time event) (phaseOf middle) (phaseOf (machine.next middle event))) :
    Spent window rest wakeUp (phaseOf state) (attempts phaseOf time machine start events) (events.map time) := by
  induction ran with
  | nil =>
      rw [waiting]
      exact ⟨spaced_nil, by simp [attempts, Machine.notes], by simp [attempts, Machine.notes],
        by simp [attempts, Machine.notes], by simp [attempts, Machine.notes], by simp, by simp⟩
  | @snoc events state event ran allowed ih =>
      obtain ⟨before, _, later⟩ := List.pairwise_append.mp ordered
      rw [attempts, ran.notes_snoc, List.map_append, List.map_singleton]
      apply (ih before).step positive (loops events state event ran allowed)
      intro past member
      obtain ⟨other, listed, rfl⟩ := List.mem_map.mp member
      exact later other listed event (by simp)

/-- The attempts fit into one window. -/
theorem Spent.length_lt (spent : Spent window rest wakeUp phase times events) (positive : 0 < rest) :
    times.length * rest < window + rest := by
  cases head : times.head? with
  | none =>
      rw [List.head?_eq_none_iff.mp head]
      simpa using Nat.add_pos_right window positive
  | some first =>
      exact spent.spaced.length_lt positive (spent.early first head)

end RetryLoop
