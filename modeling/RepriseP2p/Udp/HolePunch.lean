/-
This file models `hole_punch` and proves when both messages came from the address that it returns.
-/

import RepriseP2p.Foundation.Machine
import RepriseP2p.Udp.Poll

namespace RepriseP2p.Udp

def punch : List UInt8 := "punch".toUTF8.data.toList

def punchAck : List UInt8 := "punch ack".toUTF8.data.toList

/-- Where the function waits. The loop checks its clock and its flags before each of its awaits. -/
inductive PunchStage where
  | checking
  | selecting
  | draining (deadline : Instant)
  | settling (wakeUp : Instant)
  | done (result : Except HolePunchError SocketAddr)
  deriving DecidableEq

inductive PunchEvent where
  | checked
  | ticked
  | received (src : SocketAddr) (datagram : List UInt8)
  | receiveFailed
  | timedOut
  deriving DecidableEq

structure PunchRun where
  curSendDst : SocketAddr
  punchDeadline : Instant
  gotPunch : Bool
  gotPunchAck : Bool
  stage : PunchStage
  deriving DecidableEq

namespace PunchRun

def start (peer : SocketAddrV4) (now : Instant) : PunchRun :=
  ⟨.v4 peer, now + Duration.fromMillis 500, false, false, .checking⟩

/-- The handling of a datagram in the punch loop. The buffer holds 2000 bytes. -/
def hear (src : SocketAddr) (datagram : List UInt8) (run : PunchRun) : PunchRun :=
  let msg := datagram.take 2000
  if msg = punch then { run with curSendDst := src, gotPunch := true, stage := .checking }
  else if msg = punchAck then { run with gotPunchAck := true, stage := .checking }
  else { run with stage := .checking }

/-- The end of the punch loop. -/
def leave (now : Instant) (run : PunchRun) : PunchRun :=
  if !run.gotPunch || !run.gotPunchAck then
    { run with stage := .done (.error ⟨run.gotPunch, run.gotPunchAck⟩) }
  else { run with stage := .draining (now + Duration.fromMillis 200) }

/-- One step of the function. An event that does not fit the stage has no effect, like a datagram after the loop. -/
def step (now : Instant) (run : PunchRun) (event : PunchEvent) : PunchRun :=
  match run.stage, event with
  | .checking, .checked =>
      if run.punchDeadline ≤ now then run.leave now
      else if run.gotPunch && run.gotPunchAck then run.leave now
      else { run with stage := .selecting }
  | .selecting, .ticked => { run with stage := .checking }
  | .selecting, .received src datagram => run.hear src datagram
  | .selecting, .receiveFailed => { run with stage := .checking }
  | .draining deadline, .timedOut =>
      if deadline ≤ now then { run with stage := .settling (now + Duration.fromMillis 200) } else run
  | .settling wakeUp, .timedOut => if wakeUp ≤ now then { run with stage := .done (.ok run.curSendDst) } else run
  | _, _ => run

/-- The datagrams that a step sends. A send that fails is like a lost datagram. -/
def sends (run : PunchRun) (event : PunchEvent) : List (SocketAddr × List UInt8) :=
  match run.stage, event with
  | .selecting, .ticked => [(run.curSendDst, punch)]
  | .selecting, .received src datagram => if datagram.take 2000 = punch then [(src, punchAck)] else []
  | _, _ => []

/-- The datagram that a step receives in the punch loop. -/
def hears (run : PunchRun) (event : PunchEvent) : Option (SocketAddr × List UInt8) :=
  match run.stage, event with
  | .selecting, .received src datagram => some (src, datagram)
  | _, _ => none

end PunchRun

/-- The function takes any events at any times, with datagrams of any sources and contents. -/
def punchMachine : Machine PunchRun (Instant × PunchEvent) where
  initial run := ∃ peer now, run = .start peer now
  allowed _ _ := True
  next run event := run.step event.1 event.2

theorem punchMachine_run (start : PunchRun) (events : List (Instant × PunchEvent)) :
    punchMachine.Run start events (events.foldl punchMachine.next start) :=
  Machine.run_of_free (fun _ _ => trivial) _ _

/-- The datagrams that a run receives in the punch loop, oldest first. -/
def heard (start : PunchRun) (events : List (Instant × PunchEvent)) : List (SocketAddr × List UInt8) :=
  punchMachine.notes (fun run event => run.hears event.2) start events

/-- A short message is not cut off. -/
theorem take_eq_iff {target : List UInt8} {size : Nat} (short : target.length < size) (datagram : List UInt8) :
    datagram.take size = target ↔ datagram = target := by
  constructor
  · intro same
    have length := congrArg List.length same
    rw [List.length_take] at length
    rwa [List.take_of_length_le (by omega)] at same
  · rintro rfl
    exact List.take_of_length_le short.le

/-- The source of the last punch among these datagrams. -/
def lastPunch (heard : List (SocketAddr × List UInt8)) : Option SocketAddr :=
  (heard.filterMap fun entry => if entry.2 = punch then some entry.1 else none).getLast?

theorem lastPunch_snoc (heard : List (SocketAddr × List UInt8)) (src : SocketAddr) (datagram : List UInt8) :
    lastPunch (heard ++ [(src, datagram)]) = if datagram = punch then some src else lastPunch heard := by
  by_cases same : datagram = punch
  · simp [lastPunch, same]
  · simp [lastPunch, same]

theorem mem_of_lastPunch {heard : List (SocketAddr × List UInt8)} {src : SocketAddr}
    (last : lastPunch heard = some src) : (src, punch) ∈ heard := by
  obtain ⟨⟨other, datagram⟩, member, found⟩ := List.mem_filterMap.mp (List.mem_of_getLast? last)
  dsimp only at found
  split_ifs at found with same
  cases found
  exact same ▸ member

theorem lastPunch_of_mem {heard : List (SocketAddr × List UInt8)} {src : SocketAddr}
    (member : (src, punch) ∈ heard) : ∃ last, lastPunch heard = some last := by
  have listed : src ∈ heard.filterMap fun entry => if entry.2 = punch then some entry.1 else none :=
    List.mem_filterMap.mpr ⟨_, member, if_pos rfl⟩
  exact Option.ne_none_iff_exists'.mp fun absent => by
    rw [lastPunch, List.getLast?_eq_none_iff] at absent
    rw [absent] at listed
    cases listed

/-- What the function returns with these flags. -/
def PunchRun.outcome (run : PunchRun) : Except HolePunchError SocketAddr :=
  if run.gotPunch && run.gotPunchAck then .ok run.curSendDst else .error ⟨run.gotPunch, run.gotPunchAck⟩

theorem PunchRun.outcome_ok {run : PunchRun} {addr : SocketAddr} : run.outcome = .ok addr ↔
    run.gotPunch = true ∧ run.gotPunchAck = true ∧ run.curSendDst = addr := by
  unfold outcome
  cases run.gotPunch <;> cases run.gotPunchAck <;> simp

theorem PunchRun.outcome_error {run : PunchRun} {error : HolePunchError} (failed : run.outcome = .error error) :
    error = ⟨run.gotPunch, run.gotPunchAck⟩ := by
  unfold outcome at failed
  split_ifs at failed
  exact (Except.error.inj failed).symm

/-- The flags, the destination and the result follow from the datagrams. -/
structure PunchRun.Follows (run : PunchRun) (heard : List (SocketAddr × List UInt8)) : Prop where
  punched : run.gotPunch = true ↔ ∃ src, (src, punch) ∈ heard
  acked : run.gotPunchAck = true ↔ ∃ src, (src, punchAck) ∈ heard
  answers : ∀ src, lastPunch heard = some src → run.curSendDst = src
  opened : ∀ time, run.stage = .draining time ∨ run.stage = .settling time → run.outcome = .ok run.curSendDst
  returned : ∀ result, run.stage = .done result → run.outcome = result

namespace PunchRun

variable {run : PunchRun} {heard : List (SocketAddr × List UInt8)}

theorem follows_start (peer : SocketAddrV4) (now : Instant) : (start peer now).Follows [] := by
  constructor
  · simp [start]
  · simp [start]
  · intro src last
    cases last
  · rintro time (draining | settling)
    · cases draining
    · cases settling
  · intro result done
    cases done

/-- A change of the stage alone. -/
theorem Follows.moveTo (follows : run.Follows heard) {stage : PunchStage}
    (opened : ∀ time, stage = .draining time ∨ stage = .settling time → run.outcome = .ok run.curSendDst)
    (returned : ∀ result, stage = .done result → run.outcome = result) :
    { run with stage }.Follows heard :=
  ⟨follows.punched, follows.acked, follows.answers, opened, returned⟩

theorem Follows.hear (follows : run.Follows heard) (src : SocketAddr) (datagram : List UInt8) :
    (run.hear src datagram).Follows (heard ++ [(src, datagram)]) := by
  have checking {next : PunchRun} (stage : next.stage = .checking) :
      (∀ time, next.stage = .draining time ∨ next.stage = .settling time → next.outcome = .ok next.curSendDst) ∧
        ∀ result, next.stage = .done result → next.outcome = result := by
    rw [stage]
    exact ⟨by simp, by simp⟩
  simp only [PunchRun.hear, take_eq_iff (show punch.length < 2000 by decide),
    take_eq_iff (show punchAck.length < 2000 by decide)]
  have differ : punchAck ≠ punch := by decide
  split_ifs with punched acked
  · subst punched
    refine ⟨by simp, ?_, ?_, (checking rfl).1, (checking rfl).2⟩
    · simpa [differ] using follows.acked
    · intro last same
      rw [lastPunch_snoc, if_pos rfl] at same
      exact Option.some.inj same
  · subst acked
    refine ⟨?_, by simp, ?_, (checking rfl).1, (checking rfl).2⟩
    · simpa [differ.symm] using follows.punched
    · intro last same
      rw [lastPunch_snoc, if_neg differ] at same
      exact follows.answers last same
  · refine ⟨?_, ?_, ?_, (checking rfl).1, (checking rfl).2⟩
    · simpa [Ne.symm punched] using follows.punched
    · simpa [Ne.symm acked] using follows.acked
    · intro last same
      rw [lastPunch_snoc, if_neg punched] at same
      exact follows.answers last same

theorem Follows.leave (follows : run.Follows heard) (now : Instant) : (run.leave now).Follows heard := by
  unfold PunchRun.leave
  rw [← Bool.not_and]
  cases both : run.gotPunch && run.gotPunchAck with
  | false =>
      refine follows.moveTo (by simp) ?_
      rintro result ⟨⟩
      rw [outcome, both]
      rfl
  | true =>
      refine follows.moveTo ?_ (by simp)
      intro time _
      rw [outcome, both]
      rfl

/-- A step keeps this, with the datagram that it receives. -/
theorem Follows.step (follows : run.Follows heard) (now : Instant) (event : PunchEvent) :
    (run.step now event).Follows (heard ++ (run.hears event).toList) := by
  have unheard : run.Follows (heard ++ Option.none.toList) := by simpa using follows
  cases stage : run.stage with
  | checking =>
      cases event with
      | checked =>
          simp only [PunchRun.step, hears, stage]
          split_ifs
          · exact unheard.leave now
          · exact unheard.leave now
          · exact unheard.moveTo (by simp) (by simp)
      | _ =>
          simp only [PunchRun.step, hears, stage]
          exact unheard
  | selecting =>
      cases event with
      | received src datagram =>
          simp only [PunchRun.step, hears, stage]
          exact follows.hear src datagram
      | ticked =>
          simp only [PunchRun.step, hears, stage]
          exact unheard.moveTo (by simp) (by simp)
      | receiveFailed =>
          simp only [PunchRun.step, hears, stage]
          exact unheard.moveTo (by simp) (by simp)
      | _ =>
          simp only [PunchRun.step, hears, stage]
          exact unheard
  | draining deadline =>
      cases event with
      | timedOut =>
          simp only [PunchRun.step, hears, stage]
          split_ifs
          · exact unheard.moveTo (fun _ _ => follows.opened deadline (.inl stage)) (by simp)
          · exact unheard
      | _ =>
          simp only [PunchRun.step, hears, stage]
          exact unheard
  | settling wakeUp =>
      cases event with
      | timedOut =>
          simp only [PunchRun.step, hears, stage]
          split_ifs
          · refine unheard.moveTo (by simp) ?_
            rintro result ⟨⟩
            exact follows.opened wakeUp (.inr stage)
          · exact unheard
      | _ =>
          simp only [PunchRun.step, hears, stage]
          exact unheard
  | done result =>
      cases event with
      | _ =>
          simp only [PunchRun.step, hears, stage]
          exact unheard

end PunchRun

/-- If a punch and an acknowledgement arrived, the source of the last punch acknowledged. -/
def AckedLast (heard : List (SocketAddr × List UInt8)) : Prop :=
  ∀ addr, lastPunch heard = some addr → (∃ src, (src, punchAck) ∈ heard) → (addr, punchAck) ∈ heard

/-- A complete run returns only an address from which a punch and an acknowledgement arrived in the punch loop, exactly
when no acknowledgement arrived there, or no punch, or the source of the last punch acknowledged. -/
theorem hole_punch_addr_iff {start run : PunchRun} {events : List (Instant × PunchEvent)}
    (initial : punchMachine.initial start) (ran : punchMachine.Run start events run)
    (ended : ∃ result, run.stage = .done result) :
    (∀ addr, run.stage = .done (.ok addr) →
      (addr, punch) ∈ heard start events ∧ (addr, punchAck) ∈ heard start events) ↔
      AckedLast (heard start events) := by
  have follows : run.Follows (heard start events) := by
    obtain ⟨peer, now, rfl⟩ := initial
    apply ran.invariant_noted fun run heard => run.Follows heard
    · exact PunchRun.follows_start peer now
    · intro run heard event follows _
      exact follows.step event.1 event.2
  obtain ⟨result, done⟩ := ended
  have outcome := follows.returned result done
  constructor
  · intro both addr last acked
    have punched := follows.punched.mpr ⟨addr, mem_of_lastPunch last⟩
    have returned : run.outcome = .ok addr :=
      PunchRun.outcome_ok.mpr ⟨punched, follows.acked.mpr acked, follows.answers addr last⟩
    rw [← outcome, returned] at done
    exact (both addr done).2
  · intro acked addr ok
    rw [done] at ok
    cases ok
    obtain ⟨punched, answered, rfl⟩ := PunchRun.outcome_ok.mp outcome
    obtain ⟨src, member⟩ := follows.punched.mp punched
    obtain ⟨last, found⟩ := lastPunch_of_mem member
    rw [follows.answers last found]
    exact ⟨mem_of_lastPunch found, acked last found (follows.acked.mp answered)⟩

/-- An acknowledgement from this host, and then a punch from host 2, within the first two milliseconds. -/
def samplePunching (acker : UInt8) : List (Instant × PunchEvent) :=
  let ms := Duration.fromMillis
  [(0, .checked), (ms 1, .received (.v4 (sampleAddr acker)) punchAck), (ms 1, .checked),
    (ms 2, .received (.v4 (sampleAddr 2)) punch), (ms 2, .checked), (ms 202, .timedOut), (ms 402, .timedOut)]

/-- Host 2 sends both messages. -/
theorem hole_punch_addr_sample : (.v4 (sampleAddr 2), punch) ∈ heard (.start (sampleAddr 2) 0) (samplePunching 2) ∧
    (.v4 (sampleAddr 2), punchAck) ∈ heard (.start (sampleAddr 2) 0) (samplePunching 2) := by
  apply (hole_punch_addr_iff ⟨sampleAddr 2, 0, rfl⟩ (punchMachine_run _ (samplePunching 2))
    ⟨.ok (.v4 (sampleAddr 2)), by decide +kernel⟩).mpr
  · intro addr last _
    have punched : lastPunch (heard (.start (sampleAddr 2) 0) (samplePunching 2)) = some (.v4 (sampleAddr 2)) := by
      decide +kernel
    cases last.symm.trans punched
    decide +kernel
  · decide +kernel

/-- Host 3 acknowledges and host 2 punches. The function returns the address of host 2. -/
theorem hole_punch_addr_fails : ¬ ∀ start run events addr, punchMachine.initial start →
    punchMachine.Run start events run → run.stage = .done (.ok addr) →
    (addr, punch) ∈ heard start events ∧ (addr, punchAck) ∈ heard start events := by
  intro claim
  have both := claim (.start (sampleAddr 2) 0) _ (samplePunching 3) (.v4 (sampleAddr 2)) ⟨sampleAddr 2, 0, rfl⟩
    (punchMachine_run _ _) (by decide +kernel)
  revert both
  decide +kernel

end RepriseP2p.Udp
