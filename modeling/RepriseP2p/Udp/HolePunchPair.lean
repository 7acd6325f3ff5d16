/-
This file runs `hole_punch` on both sides of an unreliable network and proves what a success of one side says about the
other side.
-/

import RepriseP2p.Udp.HolePunch

namespace RepriseP2p.Udp

inductive Side where
  | first
  | second
  deriving DecidableEq

def Side.other : Side → Side
  | .first => .second
  | .second => .first

@[simp] theorem Side.other_other (side : Side) : side.other.other = side := by
  cases side <;> rfl

theorem Side.other_ne (side : Side) : side.other ≠ side := by
  cases side <;> decide

theorem Side.eq_or_eq_other (side one : Side) : one = side ∨ one = side.other := by
  cases side <;> cases one <;> decide

/-- Both sides, the datagrams that each has sent, and those that each has received in its punch loop. -/
structure PunchPair where
  runs : Side → PunchRun
  sent : Side → List (SocketAddr × List UInt8)
  heard : Side → List (SocketAddr × List UInt8)

namespace PunchPair

def next (pair : PunchPair) (event : Instant × Side × PunchEvent) : PunchPair :=
  let (now, side, taken) := event
  { runs := Function.update pair.runs side ((pair.runs side).step now taken)
    sent := Function.update pair.sent side (pair.sent side ++ (pair.runs side).sends taken)
    heard := Function.update pair.heard side (pair.heard side ++ ((pair.runs side).hears taken).toList) }

/-- A datagram that arrives was sent by the other side. It may arrive late, again or never, and from any source. -/
def delivers (pair : PunchPair) (event : Instant × Side × PunchEvent) : Bool :=
  match event.2.2 with
  | .received _ datagram => ((pair.sent event.2.1.other).map Prod.snd).contains datagram
  | _ => true

end PunchPair

/-- Each side starts towards any address at any time, and both take their steps in any order. -/
def pairMachine : Machine PunchPair (Instant × Side × PunchEvent) where
  initial pair := (∀ side, ∃ peer now, pair.runs side = .start peer now) ∧ (∀ side, pair.sent side = []) ∧
    ∀ side, pair.heard side = []
  allowed pair event := pair.delivers event = true
  next := PunchPair.next

instance (pair : PunchPair) (event : Instant × Side × PunchEvent) : Decidable (pairMachine.allowed pair event) :=
  inferInstanceAs (Decidable (_ = true))

theorem PunchRun.hears_received {run : PunchRun} {event : PunchEvent} {src : SocketAddr} {datagram : List UInt8}
    (hears : (src, datagram) ∈ run.hears event) : event = .received src datagram := by
  unfold PunchRun.hears at hears
  split at hears
  · cases hears
    rfl
  · cases hears

/-- An acknowledgement answers a punch that the same step receives. -/
theorem PunchRun.sends_ack {run : PunchRun} {event : PunchEvent} {dst : SocketAddr}
    (sends : (dst, punchAck) ∈ run.sends event) : (dst, punch) ∈ run.hears event := by
  unfold PunchRun.sends at sends
  split at sends
  · have same : punchAck = punch := congrArg Prod.snd (List.mem_singleton.mp sends)
    exact absurd same (by decide)
  · rename_i src datagram selecting
    split_ifs at sends with punched
    · cases List.mem_singleton.mp sends
      rw [take_eq_iff (by decide)] at punched
      simp only [PunchRun.hears, selecting, punched, Option.mem_def]
    · cases sends
  · cases sends

/-- What the sent and the received datagrams say about each other. -/
structure PunchPair.Genuine (pair : PunchPair) : Prop where
  follows : ∀ side, (pair.runs side).Follows (pair.heard side)
  sent : ∀ side src datagram, (src, datagram) ∈ pair.heard side →
    ∃ dst, (dst, datagram) ∈ pair.sent side.other
  acked : ∀ side dst, (dst, punchAck) ∈ pair.sent side → (dst, punch) ∈ pair.heard side

namespace PunchPair

variable {pair : PunchPair}

theorem genuine_start (initial : pairMachine.initial pair) : pair.Genuine := by
  obtain ⟨runs, sent, heard⟩ := initial
  refine ⟨?_, ?_, ?_⟩
  · intro side
    obtain ⟨peer, now, started⟩ := runs side
    rw [started, heard]
    exact PunchRun.follows_start peer now
  · intro side src datagram received
    rw [heard] at received
    cases received
  · intro side dst acked
    rw [sent] at acked
    cases acked

section Step

variable (now : Instant) (side : Side) (taken : PunchEvent)

/-- A step changes only its own side. -/
theorem next_own : (pair.next (now, side, taken)).runs side = (pair.runs side).step now taken ∧
    (pair.next (now, side, taken)).sent side = pair.sent side ++ (pair.runs side).sends taken ∧
    (pair.next (now, side, taken)).heard side = pair.heard side ++ ((pair.runs side).hears taken).toList :=
  ⟨Function.update_self .., Function.update_self .., Function.update_self ..⟩

theorem next_other : (pair.next (now, side, taken)).runs side.other = pair.runs side.other ∧
    (pair.next (now, side, taken)).sent side.other = pair.sent side.other ∧
    (pair.next (now, side, taken)).heard side.other = pair.heard side.other :=
  ⟨Function.update_of_ne side.other_ne .., Function.update_of_ne side.other_ne ..,
    Function.update_of_ne side.other_ne ..⟩

theorem Genuine.step (genuine : pair.Genuine) (delivers : pair.delivers (now, side, taken) = true) :
    (pair.next (now, side, taken)).Genuine := by
  obtain ⟨ownRun, ownSent, ownHeard⟩ := pair.next_own now side taken
  obtain ⟨otherRun, otherSent, otherHeard⟩ := pair.next_other now side taken
  refine ⟨?_, ?_, ?_⟩
  · intro one
    obtain rfl | rfl := side.eq_or_eq_other one
    · rw [ownRun, ownHeard]
      exact (genuine.follows one).step now taken
    · rw [otherRun, otherHeard]
      exact genuine.follows side.other
  · intro one src datagram received
    obtain rfl | rfl := side.eq_or_eq_other one
    · rw [ownHeard, List.mem_append, Option.mem_toList] at received
      rw [otherSent]
      obtain before | hears := received
      · exact genuine.sent one src datagram before
      · obtain rfl := PunchRun.hears_received hears
        obtain ⟨⟨dst, same⟩, member, rfl⟩ := List.mem_map.mp (List.contains_iff_mem.mp delivers)
        exact ⟨dst, member⟩
    · rw [otherHeard] at received
      obtain ⟨dst, before⟩ := genuine.sent side.other src datagram received
      rw [side.other_other] at before ⊢
      rw [ownSent]
      exact ⟨dst, List.mem_append_left _ before⟩
  · intro one dst acked
    obtain rfl | rfl := side.eq_or_eq_other one
    · rw [ownSent, List.mem_append] at acked
      rw [ownHeard, List.mem_append, Option.mem_toList]
      obtain before | sends := acked
      · exact .inl (genuine.acked one dst before)
      · exact .inr (PunchRun.sends_ack sends)
    · rw [otherSent] at acked
      rw [otherHeard]
      exact genuine.acked side.other dst acked

end Step

theorem genuine_of_reachable (reachable : pairMachine.Reachable pair) : pair.Genuine := by
  apply reachable.invariant PunchPair.Genuine
  · intro start initial
    exact genuine_start initial
  · intro pair event _ genuine delivers
    exact genuine.step event.1 event.2.1 event.2.2 delivers

end PunchPair

/-- When one side returns an address, the other side has received a punch of this side in its punch loop, so it cannot
fail without a punch. This side has received a punch of the other side, with the returned address as its source. -/
theorem hole_punch_evidence {pair : PunchPair} (reachable : pairMachine.Reachable pair) {side : Side}
    {addr : SocketAddr} (ok : (pair.runs side).stage = .done (.ok addr)) :
    (∃ src dst, (src, punch) ∈ pair.heard side.other ∧ (dst, punch) ∈ pair.sent side) ∧
      (∀ error, (pair.runs side.other).stage = .done (.error error) → error.gotPunch = true) ∧
      (addr, punch) ∈ pair.heard side ∧ ∃ dst, (dst, punch) ∈ pair.sent side.other := by
  have genuine := PunchPair.genuine_of_reachable reachable
  have follows := genuine.follows side
  obtain ⟨punched, acked, rfl⟩ := PunchRun.outcome_ok.mp (follows.returned _ ok)
  -- The acknowledgement that this side received answers a punch that the other side received.
  obtain ⟨acker, ack⟩ := follows.acked.mp acked
  obtain ⟨src, sentAck⟩ := genuine.sent side acker punchAck ack
  have answered := genuine.acked side.other src sentAck
  obtain ⟨dst, sentPunch⟩ := genuine.sent side.other src punch answered
  rw [side.other_other] at sentPunch
  refine ⟨⟨src, dst, answered, sentPunch⟩, ?_, ?_⟩
  · intro error failed
    rw [PunchRun.outcome_error ((genuine.follows side.other).returned _ failed)]
    exact (genuine.follows side.other).punched.mpr ⟨src, answered⟩
  · obtain ⟨puncher, member⟩ := follows.punched.mp punched
    obtain ⟨last, found⟩ := lastPunch_of_mem member
    have heard := mem_of_lastPunch found
    rw [follows.answers last found]
    exact ⟨heard, genuine.sent side last punch heard⟩

/-- Both sides start at once, towards the addresses of hosts 1 and 2. -/
def samplePairStart : PunchPair where
  runs
    | .first => .start (sampleAddr 2) 0
    | .second => .start (sampleAddr 1) 0
  sent _ := []
  heard _ := []

/-- Each side punches and is punched, and the acknowledgement of the second side arrives. The network rewrites the
sources to hosts 11 and 21. -/
def samplePairEvents : List (Instant × Side × PunchEvent) :=
  let ms := Duration.fromMillis
  [(0, .first, .checked), (0, .first, .ticked), (0, .second, .checked), (0, .second, .ticked),
    (ms 1, .first, .checked), (ms 1, .first, .received (.v4 (sampleAddr 21)) punch), (ms 1, .second, .checked),
    (ms 1, .second, .received (.v4 (sampleAddr 11)) punch), (ms 2, .first, .checked),
    (ms 2, .first, .received (.v4 (sampleAddr 21)) punchAck), (ms 2, .first, .checked), (ms 202, .first, .timedOut),
    (ms 402, .first, .timedOut)]

/-- The first side returns the address of host 21, from which a punch arrived. -/
theorem hole_punch_evidence_sample : (.v4 (sampleAddr 21), punch) ∈
    (samplePairEvents.foldl PunchPair.next samplePairStart).heard .first := by
  have initial : pairMachine.initial samplePairStart := by
    refine ⟨fun side => ?_, fun _ => rfl, fun _ => rfl⟩
    cases side with
    | first => exact ⟨sampleAddr 2, 0, rfl⟩
    | second => exact ⟨sampleAddr 1, 0, rfl⟩
  have reachable : pairMachine.Reachable (samplePairEvents.foldl PunchPair.next samplePairStart) :=
    Machine.Reachable.of_valid initial (by decide +kernel)
  have ok : ((samplePairEvents.foldl PunchPair.next samplePairStart).runs .first).stage =
      .done (.ok (.v4 (sampleAddr 21))) := by decide +kernel
  exact (hole_punch_evidence reachable ok).2.2.1

end RepriseP2p.Udp
