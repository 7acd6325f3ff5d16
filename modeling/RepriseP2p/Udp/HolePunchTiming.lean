/-
This file runs `hole_punch` against a clock whose timers fire late by a bounded time.
-/

import RepriseP2p.Udp.HolePunch

namespace RepriseP2p.Udp

/-- What the function returned, if it did. -/
def PunchStage.result : PunchStage → Option (Except HolePunchError SocketAddr)
  | .done result => some result
  | _ => none

/-- The function with its interval, the time of its last change of stage, the clock, and what it has sent. -/
structure TimedPunch where
  run : PunchRun
  started : Instant
  intervalStart : Instant
  ticks : Nat
  entered : Instant
  clock : Instant
  sent : List (SocketAddr × List UInt8)

namespace PunchRun

/-- What a step of the function does. -/
inductive StepCase (run : PunchRun) (now : Instant) : PunchEvent → PunchRun → Prop where
  | left (checking : run.stage = .checking)
      (reason : run.punchDeadline ≤ now ∨ run.gotPunch = true ∧ run.gotPunchAck = true) :
      StepCase run now .checked (run.leave now)
  | stayed (checking : run.stage = .checking) (early : now < run.punchDeadline) :
      StepCase run now .checked { run with stage := .selecting }
  | ticked (selecting : run.stage = .selecting) : StepCase run now .ticked { run with stage := .checking }
  | heard (src : SocketAddr) (datagram : List UInt8) (selecting : run.stage = .selecting) :
      StepCase run now (.received src datagram) (run.hear src datagram)
  | receiveFailed (selecting : run.stage = .selecting) :
      StepCase run now .receiveFailed { run with stage := .checking }
  | drained (deadline : Instant) (draining : run.stage = .draining deadline) (reached : deadline ≤ now) :
      StepCase run now .timedOut { run with stage := .settling (now + Duration.fromMillis 200) }
  | settled (wakeUp : Instant) (settling : run.stage = .settling wakeUp) (reached : wakeUp ≤ now) :
      StepCase run now .timedOut { run with stage := .done (.ok run.curSendDst) }
  | ignored (taken : PunchEvent) (waits : run.stage = .selecting → taken = .checked ∨ taken = .timedOut) :
      StepCase run now taken run

variable (run : PunchRun) (now : Instant) (taken : PunchEvent)

theorem step_case : run.StepCase now taken (run.step now taken) := by
  unfold step
  split
  · rename_i checking
    split_ifs with reached both
    · exact .left checking (.inl reached)
    · exact .left checking (.inr (by simpa using both))
    · exact .stayed checking (not_le.mp reached)
  · exact .ticked ‹_›
  · exact .heard _ _ ‹_›
  · exact .receiveFailed ‹_›
  · split_ifs with reached
    · exact .drained _ ‹_› reached
    · exact .ignored _ fun _ => .inr rfl
  · split_ifs with reached
    · exact .settled _ ‹_› reached
    · exact .ignored _ fun _ => .inr rfl
  · rename_i taken _ _ _ noTick noDatagram noFailure _ _
    refine .ignored _ fun selecting => ?_
    cases taken with
    | checked => exact .inl rfl
    | timedOut => exact .inr rfl
    | ticked => exact (noTick selecting rfl).elim
    | received src datagram => exact (noDatagram src datagram selecting rfl).elim
    | receiveFailed => exact (noFailure selecting rfl).elim

/-- A datagram leads back to the checks. -/
theorem hear_spec (src : SocketAddr) (datagram : List UInt8) :
    (run.hear src datagram).stage = .checking ∧ (run.hear src datagram).punchDeadline = run.punchDeadline := by
  simp only [hear]
  split_ifs <;> simp

/-- The end of the loop keeps the flags. -/
theorem leave_spec : (run.leave now).gotPunch = run.gotPunch ∧ (run.leave now).gotPunchAck = run.gotPunchAck := by
  simp only [leave]
  split_ifs <;> simp

/-- Only a tick sends a punch. -/
theorem sends_punches : (run.sends taken).countP (fun entry => entry.2 = punch) =
    if run.stage = .selecting ∧ taken = .ticked then 1 else 0 := by
  have differ : punchAck ≠ punch := by decide
  unfold sends
  split
  · rename_i selecting
    simp [selecting]
  · split_ifs <;> simp_all
  · rename_i noTick noDatagram
    rw [if_neg fun both => noTick both.1 both.2]
    rfl

end PunchRun

namespace TimedPunch

def start (peer : SocketAddrV4) (started intervalStart : Instant) : TimedPunch :=
  ⟨.start peer started, started, intervalStart, 0, intervalStart, intervalStart, []⟩

/-- The time of the next tick. A tick that was missed is made up at once. -/
def nextTick (state : TimedPunch) : Instant := state.intervalStart + Duration.fromMillis 20 * state.ticks

/-- The time when the await of the stage is over at the latest. -/
def due (state : TimedPunch) : Instant :=
  match state.run.stage with
  | .checking => state.entered
  | .selecting => max state.entered state.nextTick
  | .draining deadline => deadline
  | .settling wakeUp => wakeUp
  | .done _ => state.clock

def next (state : TimedPunch) (event : Instant × PunchEvent) : TimedPunch :=
  let run := state.run.step event.1 event.2
  { state with
    run
    ticks := if state.run.stage = .selecting ∧ event.2 = .ticked then state.ticks + 1 else state.ticks
    entered := if run.stage = state.run.stage then state.entered else event.1
    clock := event.1
    sent := state.sent ++ state.run.sends event.2 }

end TimedPunch

/-- No await takes longer than this after it is due, and the interval starts this soon after the deadline was set. -/
def timedPunchMachine (late : Duration) : Machine TimedPunch (Instant × PunchEvent) where
  initial state := ∃ peer started intervalStart, started ≤ intervalStart ∧ intervalStart ≤ started + late ∧
    state = .start peer started intervalStart
  allowed state event := state.run.stage.result = none ∧ state.clock ≤ event.1 ∧
    event.1 ≤ state.due + late ∧ (state.run.stage = .selecting → event.2 = .ticked → state.nextTick ≤ event.1)
  next := TimedPunch.next

instance (late : Duration) (state : TimedPunch) (event : Instant × PunchEvent) :
    Decidable ((timedPunchMachine late).allowed state event) :=
  inferInstanceAs (Decidable (_ ∧ _ ∧ _ ∧ _))

namespace TimedPunch

/-- The times between which a stage can be. -/
def InTime (late : Duration) (state : TimedPunch) : Prop :=
  match state.run.stage with
  | .checking => state.entered ≤ state.started + Duration.fromMillis 500 + 2 * late ∧ state.ticks ≤ 26
  | .selecting => state.entered < state.started + Duration.fromMillis 500 ∧ state.ticks ≤ 25
  | .draining deadline => state.started + Duration.fromMillis 200 ≤ deadline ∧
      deadline ≤ state.started + Duration.fromMillis 700 + 3 * late ∧ state.ticks ≤ 26
  | .settling wakeUp => state.started + Duration.fromMillis 400 ≤ wakeUp ∧
      wakeUp ≤ state.started + Duration.fromMillis 900 + 4 * late ∧ state.ticks ≤ 26
  | .done (.ok _) => state.started + Duration.fromMillis 400 ≤ state.clock ∧
      state.clock ≤ state.started + Duration.fromMillis 900 + 5 * late ∧ state.ticks ≤ 26
  | .done (.error _) => state.started + Duration.fromMillis 500 ≤ state.clock ∧
      state.clock ≤ state.started + Duration.fromMillis 500 + 3 * late ∧ state.ticks ≤ 26

structure Timely (late : Duration) (state : TimedPunch) : Prop where
  deadline : state.run.punchDeadline = state.started + Duration.fromMillis 500
  interval : state.started ≤ state.intervalStart ∧ state.intervalStart ≤ state.started + late
  entered : state.intervalStart ≤ state.entered ∧ state.entered ≤ state.clock
  prompt : state.clock ≤ state.due + late
  ticked : state.nextTick ≤ state.clock + Duration.fromMillis 20
  inTime : state.InTime late
  punches : state.sent.countP (fun entry => entry.2 = punch) = state.ticks

variable {late : Duration} {state : TimedPunch}

theorem timely_start (peer : SocketAddrV4) {started intervalStart : Instant} (after : started ≤ intervalStart)
    (soon : intervalStart ≤ started + late) : (start peer started intervalStart).Timely late where
  deadline := rfl
  interval := ⟨after, soon⟩
  entered := ⟨le_rfl, le_rfl⟩
  prompt := Nat.le_add_right _ _
  ticked := by simp [nextTick, start]
  inTime := by
    simp only [InTime, start, PunchRun.start]
    exact ⟨by lia, Nat.zero_le _⟩
  punches := rfl

/-- An event that changes nothing lets the clock run. -/
theorem Timely.wait (timely : state.Timely late) {now : Instant} {taken : PunchEvent}
    (busy : state.run.stage.result = none) (forward : state.clock ≤ now) (prompt : now ≤ state.due + late)
    (same : state.run.step now taken = state.run)
    (waits : state.run.stage = .selecting → taken = .checked ∨ taken = .timedOut) :
    (state.next (now, taken)).Timely late := by
  have noTick : ¬ (state.run.stage = .selecting ∧ taken = .ticked) := by
    rintro ⟨selecting, rfl⟩
    simpa using waits selecting
  have noDatagram (src : SocketAddr) (datagram : List UInt8) :
      ¬ (state.run.stage = .selecting ∧ taken = .received src datagram) := by
    rintro ⟨selecting, rfl⟩
    simpa using waits selecting
  have silent : state.run.sends taken = [] := by
    unfold PunchRun.sends
    split
    · exact absurd ⟨‹_›, rfl⟩ noTick
    · exact absurd ⟨‹_›, rfl⟩ (noDatagram _ _)
    · rfl
  have waited : state.next (now, taken) = { state with clock := now } := by
    simp only [next, same, silent, noTick, if_true, if_false, List.append_nil]
  rw [waited]
  refine ⟨timely.deadline, timely.interval, ⟨timely.entered.1, timely.entered.2.trans forward⟩, ?_,
    timely.ticked.trans (Nat.add_le_add_right forward _), ?_, timely.punches⟩
  · cases stage : state.run.stage with
    | done result => simp [stage, PunchStage.result] at busy
    | _ => simpa only [due, nextTick, stage] using prompt
  · have inTime := timely.inTime
    cases stage : state.run.stage with
    | done result => simp [stage, PunchStage.result] at busy
    | _ => simpa only [InTime, stage] using inTime

/-- A change of the stage keeps the times when the new await is not due yet. -/
theorem Timely.moved (timely : state.Timely late) {now : Instant} {taken : PunchEvent} {run : PunchRun} {ticks : Nat}
    (forward : state.clock ≤ now) (ready : state.run.stage = .selecting → taken = .ticked → state.nextTick ≤ now)
    (stepped : state.run.step now taken = run) (changed : run.stage ≠ state.run.stage)
    (deadline : run.punchDeadline = state.run.punchDeadline)
    (counted : (if state.run.stage = .selecting ∧ taken = .ticked then state.ticks + 1 else state.ticks) = ticks)
    (early : now ≤ due { state with run, ticks, entered := now, clock := now })
    (inTime : InTime late { state with run, ticks, entered := now, clock := now }) :
    (state.next (now, taken)).Timely late := by
  have moved : state.next (now, taken) =
      { state with run, ticks, entered := now, clock := now, sent := state.sent ++ state.run.sends taken } := by
    simp only [next, stepped, if_neg changed, counted]
  rw [moved]
  refine ⟨deadline.trans timely.deadline, timely.interval, ?_, Nat.le_add_right_of_le early, ?_, inTime, ?_⟩
  · exact ⟨timely.entered.1.trans (timely.entered.2.trans forward), le_rfl⟩
  · have ticked := timely.ticked
    subst counted
    simp only [nextTick] at ready ticked ⊢
    split_ifs with tick
    · have reached := ready tick.1 tick.2
      rw [Nat.mul_succ]
      lia
    · lia
  · subst counted
    rw [List.countP_append, timely.punches, PunchRun.sends_punches]
    split_ifs <;> rfl

/-- The loop ends at its deadline, or earlier with both flags. -/
theorem Timely.left (timely : state.Timely late) {now : Instant} (checking : state.run.stage = .checking)
    (forward : state.clock ≤ now) (prompt : now ≤ state.due + late)
    (stepped : state.run.step now .checked = state.run.leave now)
    (reason : state.run.punchDeadline ≤ now ∨ state.run.gotPunch = true ∧ state.run.gotPunchAck = true) :
    (state.next (now, .checked)).Timely late := by
  have entered := timely.inTime
  have interval := timely.interval
  have begun := timely.entered
  rw [timely.deadline, ← Bool.and_eq_true] at reason
  simp only [InTime, due, checking, Duration.fromMillis] at entered prompt reason
  rw [PunchRun.leave, ← Bool.not_and] at stepped
  cases both : state.run.gotPunch && state.run.gotPunchAck with
  | false =>
      rw [both] at stepped reason
      refine timely.moved forward (by simp [checking]) stepped (by simp [checking]) rfl
        (if_neg (by simp [checking])) le_rfl ?_
      simp only [InTime, Duration.fromMillis]
      exact ⟨by simpa using reason, by lia, entered.2⟩
  | true =>
      rw [both] at stepped
      refine timely.moved forward (by simp [checking]) stepped (by simp [checking]) rfl
        (if_neg (by simp [checking])) (Nat.le_add_right _ _) ?_
      simp only [InTime, Duration.fromMillis]
      exact ⟨by lia, by lia, entered.2⟩

/-- The loop goes on before its deadline only, and then at most 25 ticks have passed. -/
theorem Timely.stayed (timely : state.Timely late) {now : Instant} (checking : state.run.stage = .checking)
    (forward : state.clock ≤ now) (stepped : state.run.step now .checked = { state.run with stage := .selecting })
    (early : now < state.run.punchDeadline) : (state.next (now, .checked)).Timely late := by
  refine timely.moved forward (by simp [checking]) stepped (by simp [checking]) rfl
    (if_neg (by simp [checking])) (le_max_left _ _) ?_
  have interval := timely.interval
  have ticked := timely.ticked
  rw [timely.deadline] at early
  simp only [InTime, nextTick, Duration.fromMillis] at ticked early ⊢
  exact ⟨early, by lia⟩

/-- The loop waits for the next tick at most, and this tick is not after the deadline by more than the delay of the
interval. -/
theorem Timely.selected (timely : state.Timely late) {now : Instant} {taken : PunchEvent} {run : PunchRun}
    (selecting : state.run.stage = .selecting) (forward : state.clock ≤ now) (prompt : now ≤ state.due + late)
    (ready : state.run.stage = .selecting → taken = .ticked → state.nextTick ≤ now)
    (stepped : state.run.step now taken = run) (checking : run.stage = .checking)
    (deadline : run.punchDeadline = state.run.punchDeadline) : (state.next (now, taken)).Timely late := by
  have entered := timely.inTime
  have interval := timely.interval
  simp only [InTime, due, nextTick, selecting, Duration.fromMillis] at entered prompt
  refine timely.moved forward ready stepped (by simp [checking, selecting]) deadline rfl ?_ ?_
  · simp only [due, checking, le_refl]
  · simp only [InTime, checking, Duration.fromMillis]
    constructor
    · lia
    · split_ifs <;> lia

/-- Every allowed event keeps the times. -/
theorem Timely.step (timely : state.Timely late) (event : Instant × PunchEvent)
    (allowed : (timedPunchMachine late).allowed state event) : (state.next event).Timely late := by
  obtain ⟨now, taken⟩ := event
  obtain ⟨busy, forward, prompt, ready⟩ := allowed
  have inTime := timely.inTime
  have happened := state.run.step_case now taken
  generalize stepped : state.run.step now taken = after at happened
  cases happened with
  | left checking reason => exact timely.left checking forward prompt stepped reason
  | stayed checking early => exact timely.stayed checking forward stepped early
  | ticked selecting => exact timely.selected selecting forward prompt ready stepped rfl rfl
  | heard src datagram selecting =>
      have heard := state.run.hear_spec src datagram
      exact timely.selected selecting forward prompt ready stepped heard.1 heard.2
  | receiveFailed selecting => exact timely.selected selecting forward prompt ready stepped rfl rfl
  | drained deadline draining reached =>
      simp only [InTime, due, draining, Duration.fromMillis] at inTime prompt
      refine timely.moved forward (by simp) stepped (by simp [draining]) rfl (if_neg (by simp))
        (Nat.le_add_right _ _) ?_
      simp only [InTime, Duration.fromMillis]
      exact ⟨by lia, by lia, inTime.2.2⟩
  | settled wakeUp settling reached =>
      simp only [InTime, due, settling, Duration.fromMillis] at inTime prompt
      refine timely.moved forward (by simp) stepped (by simp [settling]) rfl (if_neg (by simp)) le_rfl ?_
      simp only [InTime, Duration.fromMillis]
      exact ⟨by lia, by lia, inTime.2.2⟩
  | ignored _ waits => exact timely.wait busy forward prompt stepped waits

theorem timely_of_reachable (reachable : (timedPunchMachine late).Reachable state) : state.Timely late := by
  apply reachable.invariant (Timely late)
  · rintro state ⟨peer, started, intervalStart, after, soon, rfl⟩
    exact timely_start peer after soon
  · intro state event _ timely allowed
    exact timely.step event allowed

/-- No await of the function is due later than its last one. -/
theorem Timely.due_le (timely : state.Timely late) (busy : state.run.stage.result = none) :
    state.due ≤ state.started + Duration.fromMillis 900 + 4 * late := by
  have inTime := timely.inTime
  have interval := timely.interval
  cases stage : state.run.stage with
  | done result => simp [stage, PunchStage.result] at busy
  | _ =>
      simp only [InTime, due, nextTick, stage, Duration.fromMillis] at inTime ⊢
      lia

/-- In no stage is the clock later than the whole function takes. -/
theorem Timely.clock_le (timely : state.Timely late) :
    state.clock ≤ state.started + Duration.fromMillis 900 + 5 * late := by
  have inTime := timely.inTime
  have prompt := timely.prompt
  cases stage : state.run.stage with
  | done result =>
      cases result with
      | ok addr =>
          simp only [InTime, stage] at inTime
          exact inTime.2.1
      | error error =>
          simp only [InTime, stage, Duration.fromMillis] at inTime ⊢
          lia
  | _ =>
      have last := timely.due_le (by rw [stage]; rfl)
      lia

theorem Timely.ticks_le (timely : state.Timely late) : state.ticks ≤ 26 := by
  have inTime := timely.inTime
  cases stage : state.run.stage with
  | done result =>
      cases result with
      | _ =>
          simp only [InTime, stage] at inTime
          exact inTime.2.2
  | _ =>
      simp only [InTime, stage] at inTime
      lia

/-- When its await is over, the function goes on to another stage. -/
theorem Timely.progress (timely : state.Timely late) (busy : state.run.stage.result = none) :
    ∃ event, (timedPunchMachine late).allowed state event ∧ (state.next event).run.stage ≠ state.run.stage := by
  -- The await is over at its due time, or now when it is overdue.
  have prompt : max state.clock state.due ≤ state.due + late := max_le timely.prompt (Nat.le_add_right _ _)
  have reached : state.due ≤ max state.clock state.due := le_max_right _ _
  have allowed (taken : PunchEvent) (ready : state.run.stage = .selecting → taken = .ticked →
      state.nextTick ≤ max state.clock state.due) :
      (timedPunchMachine late).allowed state (max state.clock state.due, taken) :=
    ⟨busy, le_max_left _ _, prompt, ready⟩
  cases stage : state.run.stage with
  | checking =>
      refine ⟨_, allowed .checked (by simp), ?_⟩
      simp only [next, PunchRun.step, PunchRun.leave, stage]
      split_ifs <;> simp
  | selecting =>
      rw [due, stage] at reached
      refine ⟨_, allowed .ticked fun _ _ => ?_, ?_⟩
      · rw [due, stage]
        exact (le_max_right _ _).trans reached
      · simp [next, PunchRun.step, stage]
  | draining deadline =>
      rw [due, stage] at reached
      refine ⟨_, allowed .timedOut (by simp), ?_⟩
      simp [next, PunchRun.step, stage, due] at reached ⊢
  | settling wakeUp =>
      refine ⟨_, allowed .timedOut (by simp), ?_⟩
      simp [next, PunchRun.step, stage, due]
  | done result => simp [stage, PunchStage.result] at busy

end TimedPunch

/-- With every await late by at most this time, the function sends at most 26 punches and is over 900 milliseconds and
five delays after it started. A failure takes 500 milliseconds and at most three delays more, and a success takes at
least 400 milliseconds. While it is not over, the next await ends. -/
theorem hole_punch_timing {late : Duration} {state : TimedPunch} (reachable : (timedPunchMachine late).Reachable state) :
    state.sent.countP (fun entry => entry.2 = punch) ≤ 26 ∧
      state.clock ≤ state.started + Duration.fromMillis 900 + 5 * late ∧
      (∀ error, state.run.stage = .done (.error error) → state.started + Duration.fromMillis 500 ≤ state.clock ∧
        state.clock ≤ state.started + Duration.fromMillis 500 + 3 * late) ∧
      (∀ addr, state.run.stage = .done (.ok addr) → state.started + Duration.fromMillis 400 ≤ state.clock) ∧
      (state.run.stage.result = none → ∃ event, (timedPunchMachine late).allowed state event ∧
        (state.next event).run.stage ≠ state.run.stage) := by
  have timely := TimedPunch.timely_of_reachable reachable
  have inTime := timely.inTime
  refine ⟨timely.punches ▸ timely.ticks_le, timely.clock_le, ?_, ?_, timely.progress⟩
  · intro error failed
    simp only [TimedPunch.InTime, failed] at inTime
    exact ⟨inTime.1, inTime.2.1⟩
  · intro addr ok
    simp only [TimedPunch.InTime, ok] at inTime
    exact inTime.1

/-- The sample, with awaits that are late by at most a millisecond. -/
def samplePunched : TimedPunch := (samplePunching 2).foldl TimedPunch.next (.start (sampleAddr 2) 0 0)

theorem hole_punch_timing_sample : samplePunched.sent.countP (fun entry => entry.2 = punch) ≤ 26 ∧
    samplePunched.started + Duration.fromMillis 400 ≤ samplePunched.clock := by
  have initial : (timedPunchMachine (Duration.fromMillis 1)).initial (.start (sampleAddr 2) 0 0) :=
    ⟨sampleAddr 2, 0, 0, le_rfl, Nat.zero_le _, rfl⟩
  have reachable : (timedPunchMachine (Duration.fromMillis 1)).Reachable samplePunched :=
    Machine.Reachable.of_valid initial (by decide +kernel)
  have ok : samplePunched.run.stage = .done (.ok (.v4 (sampleAddr 2))) := by decide +kernel
  have timing := hole_punch_timing reachable
  exact ⟨timing.1, timing.2.2.2.1 _ ok⟩

end RepriseP2p.Udp
