/-
This file proves that `hole_punch` succeeds on both sides when the network between them delivers in time.
-/

import RepriseP2p.Udp.HolePunchPair
import RepriseP2p.Udp.HolePunchTiming

namespace RepriseP2p.Udp

instance (holds : Side → Prop) [DecidablePred holds] : Decidable (∀ side, holds side) :=
  decidable_of_iff (holds .first ∧ holds .second) ⟨fun both side => by
    cases side with
    | first => exact both.1
    | second => exact both.2, fun each => ⟨each .first, each .second⟩⟩

/-- The punch loop goes on. -/
def PunchStage.looping : PunchStage → Bool
  | .checking | .selecting => true
  | _ => false

/-- Both sides with one clock, what each has heard in its loop, and when each has sent what. -/
structure TimedPair where
  punches : Side → TimedPunch
  heard : Side → List (SocketAddr × List UInt8)
  log : Side → List (Instant × List UInt8)
  clock : Instant

namespace TimedPair

def pair (state : TimedPair) : PunchPair :=
  ⟨fun side => (state.punches side).run, fun side => (state.punches side).sent, state.heard⟩

def next (state : TimedPair) (event : Instant × Side × PunchEvent) : TimedPair :=
  let (now, side, taken) := event
  let own := state.punches side
  { punches := Function.update state.punches side (own.next (now, taken))
    heard := Function.update state.heard side (state.heard side ++ (own.run.hears taken).toList)
    log := Function.update state.log side (state.log side ++ (own.run.sends taken).map fun entry => (now, entry.2))
    clock := now }

/-- Until now no await of the side was later than it may be. Its loop did not miss a tick, and it heard all that the
other side had sent it longer than the latency ago. -/
def Prompt (late latency : Duration) (state : TimedPair) (now : Instant) (side : Side) : Prop :=
  ((state.punches side).run.stage.result = none → now ≤ (state.punches side).due + late) ∧
    ((state.punches side).run.stage.looping = true → now ≤ (state.punches side).nextTick + late ∧
      ∀ entry ∈ state.log side.other, max entry.1 (state.punches side).intervalStart + latency < now →
        entry.2 ∈ (state.heard side).map Prod.snd)

instance (late latency : Duration) (state : TimedPair) (now : Instant) (side : Side) :
    Decidable (state.Prompt late latency now side) :=
  inferInstanceAs (Decidable ((_ → _) ∧ (_ → _)))

end TimedPair

/-- Each side starts towards any address at any time. The network may deliver a datagram with any source, twice and out
of order, but it delivers within the latency. -/
def timedPairMachine (late latency : Duration) : Machine TimedPair (Instant × Side × PunchEvent) where
  initial state := ∀ side, (timedPunchMachine late).initial (state.punches side) ∧
    state.heard side = [] ∧ state.log side = [] ∧ state.clock ≤ (state.punches side).intervalStart
  allowed state event := state.clock ≤ event.1 ∧
    (timedPunchMachine late).allowed (state.punches event.2.1) (event.1, event.2.2) ∧
    state.pair.delivers event = true ∧ ∀ side, state.Prompt late latency event.1 side
  next := TimedPair.next

instance (late latency : Duration) (state : TimedPair) (event : Instant × Side × PunchEvent) :
    Decidable ((timedPairMachine late latency).allowed state event) :=
  inferInstanceAs (Decidable (_ ∧ _ ∧ _ ∧ _))

namespace PunchRun

variable {run : PunchRun} {now : Instant} {taken : PunchEvent}

/-- Only a punch that arrives in the loop sets the first flag. -/
theorem first_punch (punched : (run.step now taken).gotPunch = true) (before : run.gotPunch = false) :
    ∃ src, run.stage = .selecting ∧ taken = .received src punch := by
  have happened := run.step_case now taken
  generalize run.step now taken = after at happened punched
  cases happened with
  | left => cases before.symm.trans ((run.leave_spec now).1.symm.trans punched)
  | heard src datagram selecting =>
      simp only [PunchRun.hear, take_eq_iff (show punch.length < 2000 by decide)] at punched
      split_ifs at punched with same
      · exact ⟨src, selecting, same ▸ rfl⟩
      · cases before.symm.trans punched
      · cases before.symm.trans punched
  | _ => cases before.symm.trans punched

/-- A step ends the loop at the deadline or with both flags, and it keeps the flags. -/
theorem left_loop (left : (run.step now taken).stage.looping = false) :
    (run.step now taken).gotPunch = run.gotPunch ∧ (run.step now taken).gotPunchAck = run.gotPunchAck ∧
      (run.stage.looping = true → run.punchDeadline ≤ now ∨ run.gotPunch = true ∧ run.gotPunchAck = true) := by
  have happened := run.step_case now taken
  generalize run.step now taken = after at happened left
  cases happened with
  | left checking reason => exact ⟨(run.leave_spec now).1, (run.leave_spec now).2, fun _ => reason⟩
  | heard src datagram selecting =>
      rw [(run.hear_spec src datagram).1] at left
      cases left
  | stayed | ticked | receiveFailed => cases left
  | drained deadline draining =>
      refine ⟨rfl, rfl, fun looping => ?_⟩
      rw [draining] at looping
      cases looping
  | settled wakeUp settling =>
      refine ⟨rfl, rfl, fun looping => ?_⟩
      rw [settling] at looping
      cases looping
  | ignored =>
      refine ⟨rfl, rfl, fun looping => ?_⟩
      cases left.symm.trans looping

end PunchRun

namespace TimedPair

variable {late latency : Duration} {state : TimedPair}

/-- The interval of the later side starts. -/
def bothStarted (state : TimedPair) : Instant :=
  max (state.punches .first).intervalStart (state.punches .second).intervalStart

theorem le_bothStarted (state : TimedPair) (side : Side) : (state.punches side).intervalStart ≤ state.bothStarted := by
  cases side with
  | first => exact le_max_left _ _
  | second => exact le_max_right _ _

/-- Both loops go on for long enough after the later side started. -/
def Overlaps (late latency : Duration) (state : TimedPair) : Prop :=
  ∀ side, state.bothStarted + late + 2 * latency < (state.punches side).started + Duration.fromMillis 500

/-- The first punch and the first acknowledgement of each side are sent in time, and no side leaves its loop without
both. -/
structure Meets (late latency : Duration) (state : TimedPair) : Prop where
  timely : ∀ side, (state.punches side).Timely late
  genuine : state.pair.Genuine
  waits : ∀ side, (state.punches side).run.stage.result = none → state.clock ≤ (state.punches side).due + late
  punched : ∀ side, (state.punches side).ticks ≠ 0 →
    ∃ tm ≤ (state.punches side).intervalStart + late, (tm, punch) ∈ state.log side
  acked : ∀ side, (state.punches side).run.gotPunch = true →
    ∃ tm ≤ state.bothStarted + late + latency, (tm, punchAck) ∈ state.log side
  succeeds : ∀ side, (state.punches side).run.stage.looping = false →
    (state.punches side).run.gotPunch = true ∧ (state.punches side).run.gotPunchAck = true

/-- A step of the pair is a step of the untimed pair. -/
theorem pair_next (state : TimedPair) (event : Instant × Side × PunchEvent) :
    (state.next event).pair = state.pair.next event := by
  obtain ⟨now, side, taken⟩ := event
  simp only [pair, next, PunchPair.next, PunchPair.mk.injEq, and_true]
  constructor
  · funext one
    by_cases own : one = side
    · subst own
      simp [TimedPunch.next]
    · simp [own]
  · funext one
    by_cases own : one = side
    · subst own
      simp [TimedPunch.next]
    · simp [own]

/-- A side that sent a punch sent its first one in time. -/
theorem Meets.sent_punch (meets : state.Meets late latency) {side : Side} {dst : SocketAddr}
    (sent : (dst, punch) ∈ (state.punches side).sent) :
    ∃ tm ≤ (state.punches side).intervalStart + late, (tm, punch) ∈ state.log side := by
  refine meets.punched side fun noTick => ?_
  have counted := (meets.timely side).punches
  rw [noTick, List.countP_eq_zero] at counted
  exact counted _ sent (by simp)

/-- A side that is still in its loop hears what the other side sent it long enough ago. -/
theorem Prompt.hears {side : Side} {now tm : Instant} {datagram : List UInt8}
    (prompt : state.Prompt late latency now side) (looping : (state.punches side).run.stage.looping = true)
    (sent : (tm, datagram) ∈ state.log side.other) (long : max tm state.bothStarted + latency < now) :
    ∃ src, (src, datagram) ∈ state.heard side := by
  have started := state.le_bothStarted side
  have heard := (prompt.2 looping).2 (tm, datagram) sent
    ((Nat.add_le_add_right (max_le_max_left tm started) latency).trans_lt long)
  obtain ⟨⟨src, same⟩, member, rfl⟩ := List.mem_map.mp heard
  exact ⟨src, member⟩

/-- A loop that went on until now has sent a punch. -/
theorem Meets.punches_by_now (meets : state.Meets late latency) {side : Side} {now : Instant}
    (prompt : state.Prompt late latency now side) (looping : (state.punches side).run.stage.looping = true)
    (long : state.bothStarted + late < now) :
    ∃ tm ≤ (state.punches side).intervalStart + late, (tm, punch) ∈ state.log side := by
  refine meets.punched side fun noTick => ?_
  have onTime := (prompt.2 looping).1
  rw [TimedPunch.nextTick, noTick, Nat.mul_zero, Nat.add_zero] at onTime
  exact absurd (onTime.trans (Nat.add_le_add_right (state.le_bothStarted side) late)) long.not_ge

/-- A loop that went on until now has heard a punch. -/
theorem Meets.punched_by_now (meets : state.Meets late latency) {side : Side} {now : Instant}
    (prompt : ∀ side, state.Prompt late latency now side) (looping : (state.punches side).run.stage.looping = true)
    (long : state.bothStarted + late + latency < now) : (state.punches side).run.gotPunch = true := by
  have follows := meets.genuine.follows side
  refine follows.punched.mpr ?_
  cases other : (state.punches side.other).run.stage.looping with
  | true =>
      obtain ⟨tm, early, sent⟩ := meets.punches_by_now (prompt side.other) other
        ((Nat.le_add_right _ latency).trans_lt long)
      have started := state.le_bothStarted side.other
      exact (prompt side).hears looping sent (by lia)
  | false =>
      -- The other side got an acknowledgement, so this side got a punch.
      obtain ⟨src, ack⟩ := (meets.genuine.follows side.other).acked.mp (meets.succeeds side.other other).2
      obtain ⟨dst, sent⟩ := meets.genuine.sent side.other src punchAck ack
      rw [side.other_other] at sent
      exact ⟨dst, meets.genuine.acked side dst sent⟩

/-- A loop that reaches its deadline has both flags. -/
theorem Meets.flags_at_deadline (meets : state.Meets late latency) (overlaps : state.Overlaps late latency) {side : Side}
    {now : Instant} (prompt : ∀ side, state.Prompt late latency now side)
    (looping : (state.punches side).run.stage.looping = true)
    (reached : (state.punches side).run.punchDeadline ≤ now) :
    (state.punches side).run.gotPunch = true ∧ (state.punches side).run.gotPunchAck = true := by
  rw [(meets.timely side).deadline] at reached
  have long := (overlaps side).trans_le reached
  have punched (one : Side) (looping : (state.punches one).run.stage.looping = true) :=
    meets.punched_by_now prompt looping (by lia)
  refine ⟨punched side looping, (meets.genuine.follows side).acked.mpr ?_⟩
  have answered : (state.punches side.other).run.gotPunch = true := by
    cases other : (state.punches side.other).run.stage.looping with
    | true => exact punched side.other other
    | false => exact (meets.succeeds side.other other).1
  obtain ⟨tm, early, sent⟩ := meets.acked side.other answered
  exact (prompt side).hears looping sent (by lia)

section Step

variable (now : Instant) (side : Side) (taken : PunchEvent)

/-- A step changes only its own side. -/
theorem next_own : (state.next (now, side, taken)).punches side = (state.punches side).next (now, taken) ∧
    (state.next (now, side, taken)).log side =
      state.log side ++ ((state.punches side).run.sends taken).map fun entry => (now, entry.2) :=
  ⟨Function.update_self .., Function.update_self ..⟩

theorem next_other : (state.next (now, side, taken)).punches side.other = state.punches side.other ∧
    (state.next (now, side, taken)).log side.other = state.log side.other :=
  ⟨Function.update_of_ne side.other_ne .., Function.update_of_ne side.other_ne ..⟩

theorem next_started (one : Side) :
    ((state.next (now, side, taken)).punches one).intervalStart = (state.punches one).intervalStart ∧
      ((state.next (now, side, taken)).punches one).started = (state.punches one).started := by
  obtain rfl | rfl := side.eq_or_eq_other one
  · rw [(state.next_own now one taken).1]
    exact ⟨rfl, rfl⟩
  · rw [(state.next_other now side taken).1]
    exact ⟨rfl, rfl⟩

theorem next_bothStarted : (state.next (now, side, taken)).bothStarted = state.bothStarted := by
  simp only [bothStarted, next_started]

end Step

/-- A punch that is sent is logged, the first one in time. -/
theorem Meets.punched_own (meets : state.Meets late latency) {now : Instant} {side : Side} {taken : PunchEvent}
    (prompt : state.Prompt late latency now side)
    (sent : ((state.punches side).next (now, taken)).ticks ≠ 0) :
    ∃ tm ≤ (state.punches side).intervalStart + late, (tm, punch) ∈ (state.next (now, side, taken)).log side := by
  rw [(state.next_own now side taken).2]
  by_cases first : (state.punches side).ticks = 0
  · rw [TimedPunch.next] at sent
    dsimp only at sent
    split_ifs at sent with tick
    · obtain ⟨selecting, rfl⟩ := tick
      have onTime := (prompt.2 (by rw [selecting]; rfl)).1
      rw [TimedPunch.nextTick, first, Nat.mul_zero, Nat.add_zero] at onTime
      refine ⟨now, onTime, List.mem_append_right _ ?_⟩
      simp [PunchRun.sends, selecting]
    · exact absurd first sent
  · obtain ⟨tm, early, logged⟩ := meets.punched side first
    exact ⟨tm, early, List.mem_append_left _ logged⟩

/-- A punch that is heard is acknowledged at once, the first one in time. -/
theorem Meets.acked_own (meets : state.Meets late latency) {now : Instant} {side : Side} {taken : PunchEvent}
    (prompt : state.Prompt late latency now side) (delivers : state.pair.delivers (now, side, taken) = true)
    (punched : ((state.punches side).run.step now taken).gotPunch = true) :
    ∃ tm ≤ state.bothStarted + late + latency, (tm, punchAck) ∈ (state.next (now, side, taken)).log side := by
  rw [(state.next_own now side taken).2]
  cases before : (state.punches side).run.gotPunch with
  | true =>
      obtain ⟨tm, early, logged⟩ := meets.acked side before
      exact ⟨tm, early, List.mem_append_left _ logged⟩
  | false =>
      obtain ⟨src, selecting, rfl⟩ := PunchRun.first_punch punched before
      refine ⟨now, ?_, List.mem_append_right _ ?_⟩
      · obtain ⟨⟨dst, same⟩, member, rfl⟩ := List.mem_map.mp (List.contains_iff_mem.mp delivers)
        obtain ⟨tm, early, logged⟩ := meets.sent_punch member
        have started := state.le_bothStarted side.other
        by_contra long
        have heard := prompt.hears (by rw [selecting]; rfl) logged (by lia)
        have flagged := (meets.genuine.follows side).punched.mpr heard
        exact Bool.false_ne_true (before.symm.trans flagged)
      · have whole : punch.take 2000 = punch := by decide
        simp [PunchRun.sends, selecting, whole]

/-- Every allowed step keeps the promise while the loops overlap. -/
theorem Meets.step (meets : state.Meets late latency) (overlaps : state.Overlaps late latency)
    (event : Instant × Side × PunchEvent) (allowed : (timedPairMachine late latency).allowed state event) :
    (state.next event).Meets late latency := by
  obtain ⟨now, side, taken⟩ := event
  obtain ⟨forward, allowedOwn, delivers, prompt⟩ := allowed
  have own := state.next_own now side taken
  have other := state.next_other now side taken
  have timely := (meets.timely side).step (now, taken) allowedOwn
  constructor
  · intro one
    obtain rfl | rfl := side.eq_or_eq_other one
    · rw [own.1]
      exact timely
    · rw [other.1]
      exact meets.timely side.other
  · rw [pair_next]
    exact meets.genuine.step now side taken delivers
  · intro one busy
    obtain rfl | rfl := side.eq_or_eq_other one
    · rw [own.1]
      exact timely.prompt
    · rw [other.1] at busy ⊢
      exact (prompt side.other).1 busy
  · intro one ticked
    rw [(state.next_started now side taken one).1]
    obtain rfl | rfl := side.eq_or_eq_other one
    · rw [own.1] at ticked
      exact meets.punched_own (prompt one) ticked
    · rw [other.1] at ticked
      rw [other.2]
      exact meets.punched side.other ticked
  · intro one punched
    rw [next_bothStarted]
    obtain rfl | rfl := side.eq_or_eq_other one
    · rw [own.1] at punched
      exact meets.acked_own (prompt one) delivers punched
    · rw [other.1] at punched
      rw [other.2]
      exact meets.acked side.other punched
  · intro one left
    obtain rfl | rfl := side.eq_or_eq_other one
    · rw [own.1] at left ⊢
      obtain ⟨samePunch, sameAck, reason⟩ := PunchRun.left_loop left
      change ((state.punches one).run.step now taken).gotPunch = true ∧
        ((state.punches one).run.step now taken).gotPunchAck = true
      rw [samePunch, sameAck]
      cases looping : (state.punches one).run.stage.looping with
      | true =>
          obtain reached | both := reason looping
          · exact meets.flags_at_deadline overlaps prompt looping reached
          · exact both
      | false => exact meets.succeeds one looping
    · rw [other.1] at left ⊢
      exact meets.succeeds side.other left

end TimedPair

end RepriseP2p.Udp
