/-
This file describes the server by the history of its requests and answers.
The pending table is exactly the set of slots that the history leaves open.
-/

import RepriseP2p.Foundation.History
import RepriseP2p.Foundation.Machine
import RepriseP2p.Udp.ServerStep

namespace RepriseP2p.Udp

open History

/-- A request with the datagrams that answered it. -/
structure Handled where
  request : AcceptedRequest
  replies : List Datagram
  deriving DecidableEq

namespace Handled

def AnsweredLost (handled : Handled) : Prop :=
  ∃ dst peer addr, ⟨dst, .lostConnectionRequest peer addr⟩ ∈ handled.replies

/-- The new requester is told the key, the address and the session of its partner. -/
def ToNew (handled : Handled) (peer : PublicKey) (addr : SocketAddrV4) (sessionId : UInt32) : Prop :=
  ⟨handled.request.addr, .initiateConnectionRequest peer addr sessionId true⟩ ∈ handled.replies

/-- The request was matched with a pending request of `peer`. -/
def MatchedWith (handled : Handled) (peer : PublicKey) : Prop := ∃ addr sessionId, handled.ToNew peer addr sessionId

def LeftPending (handled : Handled) : Prop := handled.replies = []

end Handled

/-- The server with the history of its answers, oldest first, and its last clock reading. -/
structure ServerRun where
  state : UdpState
  handled : List Handled
  clock : Instant

def ServerRun.start : ServerRun := ⟨.new, [], 0⟩

def ServerRun.receive (run : ServerRun) (request : AcceptedRequest) : ServerRun :=
  let result := run.state.handle request
  ⟨result.1, run.handled ++ [⟨request, result.2⟩], request.now⟩

/-- The server handles any accepted requests while its clock does not decrease. -/
def serverMachine : Machine ServerRun AcceptedRequest where
  initial run := run = .start
  allowed run request := run.clock ≤ request.now
  next := ServerRun.receive

instance (run : ServerRun) (request : AcceptedRequest) : Decidable (serverMachine.allowed run request) :=
  inferInstanceAs (Decidable (_ ≤ _))

/-- A request of this client that was not answered as lost. -/
def OwnRequest (client : PublicKey) (handled : Handled) : Prop :=
  handled.request.senderPubkey = client ∧ ¬ handled.AnsweredLost

/-- The latest request of `requester` still waits for `target`: it was left pending, it lists `target`, it is
younger than the timeout, and no later request of `target` was matched with it. -/
structure Waiting (history : List Handled) (bound : Nat) (now : Instant) (requester target : PublicKey)
    (index : Nat) (origin : Handled) : Prop where
  latest : LatestBefore history (OwnRequest requester) bound index origin
  leftPending : origin.LeftPending
  listed : target ∈ origin.request.peerPubkeys
  fresh : Fresh now (UdpState.pendingOf origin.request)
  unconsumed : ∀ later other, index < later → later < bound → history[later]? = some other →
    ¬ (other.request.senderPubkey = target ∧ other.MatchedWith requester)

/-- The history leaves this slot open. -/
def OpenSlot (history : List Handled) (now : Instant) (requester target : PublicKey) (pending : PendingRequest) : Prop :=
  ∃ index origin, Waiting history history.length now requester target index origin ∧
    pending = UdpState.pendingOf origin.request

/-- Later items do not matter below the bound. -/
theorem waiting_append {history extra : List Handled} {bound index : Nat} {now : Instant}
    {requester target : PublicKey} {origin : Handled} (inside : bound ≤ history.length) :
    Waiting (history ++ extra) bound now requester target index origin ↔
      Waiting history bound now requester target index origin := by
  have same (position : Nat) (below : position < bound) : (history ++ extra)[position]? = history[position]? :=
    List.getElem?_append_left (by omega)
  constructor
  · intro waiting
    refine ⟨(latestBefore_append extra inside).mp waiting.latest, waiting.leftPending, waiting.listed, waiting.fresh, ?_⟩
    intro later other after before there
    exact waiting.unconsumed later other after before (by rwa [same later before])
  · intro waiting
    refine ⟨(latestBefore_append extra inside).mpr waiting.latest, waiting.leftPending, waiting.listed, waiting.fresh, ?_⟩
    intro later other after before there
    exact waiting.unconsumed later other after before (by rwa [same later before] at there)

/-- The own new request of the requester decides its slots. -/
theorem openSlot_snoc_own {history : List Handled} {last : Handled} {now : Instant} {requester target : PublicKey}
    {pending : PendingRequest} (own : OwnRequest requester last) :
    OpenSlot (history ++ [last]) now requester target pending ↔
      last.LeftPending ∧ target ∈ last.request.peerPubkeys ∧ Fresh now (UdpState.pendingOf last.request) ∧
        pending = UdpState.pendingOf last.request := by
  unfold OpenSlot
  rw [List.length_append, List.length_singleton]
  constructor
  · rintro ⟨index, origin, waiting, rfl⟩
    obtain ⟨rfl, rfl⟩ := (latestBefore_snoc_of own).mp waiting.latest
    exact ⟨waiting.leftPending, waiting.listed, waiting.fresh, rfl⟩
  · rintro ⟨leftPending, listed, fresh, rfl⟩
    refine ⟨history.length, last, ⟨(latestBefore_snoc_of own).mpr ⟨rfl, rfl⟩, leftPending, listed, fresh, ?_⟩, rfl⟩
    intro later other after before
    omega

/-- A new request of somebody else closes at most the slot that it consumes. -/
theorem openSlot_snoc_other {history : List Handled} {last : Handled} {now : Instant} {requester target : PublicKey}
    {pending : PendingRequest} (other : ¬ OwnRequest requester last) :
    OpenSlot (history ++ [last]) now requester target pending ↔
      OpenSlot history now requester target pending ∧
        ¬ (last.request.senderPubkey = target ∧ last.MatchedWith requester) := by
  unfold OpenSlot
  rw [List.length_append, List.length_singleton]
  constructor
  · rintro ⟨index, origin, waiting, rfl⟩
    have latest := (latestBefore_snoc_of_not other).mp waiting.latest
    refine ⟨⟨index, origin, ⟨latest, waiting.leftPending, waiting.listed, waiting.fresh, ?_⟩, rfl⟩, ?_⟩
    · intro later item after before there
      exact waiting.unconsumed later item after (by omega) (by rwa [List.getElem?_append_left before])
    · exact waiting.unconsumed history.length last latest.1 (by omega) (by simp)
  · rintro ⟨⟨index, origin, waiting, rfl⟩, kept⟩
    refine ⟨index, origin, ⟨(latestBefore_snoc_of_not other).mpr waiting.latest, waiting.leftPending,
      waiting.listed, waiting.fresh, ?_⟩, rfl⟩
    intro later item after before there
    rcases Nat.lt_succ_iff_lt_or_eq.mp before with inside | rfl
    · exact waiting.unconsumed later item after inside (by rwa [List.getElem?_append_left inside] at there)
    · simp only [List.getElem?_concat_length, Option.some.injEq] at there
      rwa [← there]

/-- A slot that is open later was open earlier, and it is fresh later. -/
theorem openSlot_clock {history : List Handled} {earlier now : Instant} (ordered : earlier ≤ now)
    {requester target : PublicKey} {pending : PendingRequest} :
    OpenSlot history now requester target pending ↔
      OpenSlot history earlier requester target pending ∧ Fresh now pending := by
  constructor
  · rintro ⟨index, origin, waiting, rfl⟩
    have fresh : Fresh earlier (UdpState.pendingOf origin.request) :=
      Nat.lt_of_le_of_lt (Nat.sub_le_sub_right ordered _) waiting.fresh
    exact ⟨⟨index, origin, ⟨waiting.latest, waiting.leftPending, waiting.listed, fresh, waiting.unconsumed⟩, rfl⟩,
      waiting.fresh⟩
  · rintro ⟨⟨index, origin, waiting, rfl⟩, fresh⟩
    exact ⟨index, origin, ⟨waiting.latest, waiting.leftPending, waiting.listed, fresh, waiting.unconsumed⟩, rfl⟩

/-- An open slot carries the key of its requester. -/
theorem OpenSlot.requesterPubkey {history : List Handled} {now : Instant} {requester target : PublicKey}
    {pending : PendingRequest} (slot : OpenSlot history now requester target pending) :
    pending.requesterPubkey = requester := by
  obtain ⟨index, origin, waiting, rfl⟩ := slot
  exact waiting.latest.2.2.1.1

section Replies

variable (request : AcceptedRequest)

theorem matchReplies_toNew (pending : PendingRequest) (peer : PublicKey) (addr : SocketAddrV4) (sessionId : UInt32) :
    (⟨request, UdpState.matchReplies request pending⟩ : Handled).ToNew peer addr sessionId ↔
      pending.requesterPubkey = peer ∧ pending.requesterAddr = addr ∧ pending.requesterSessionId = sessionId := by
  simp only [Handled.ToNew, UdpState.matchReplies, List.mem_cons, Datagram.mk.injEq,
    FromServerMessage.initiateConnectionRequest.injEq, List.not_mem_nil, or_false]
  constructor
  · rintro (⟨_, _, _, _, impossible⟩ | ⟨_, rfl, rfl, rfl, _⟩)
    · cases impossible
    · exact ⟨rfl, rfl, rfl⟩
  · rintro ⟨rfl, rfl, rfl⟩
    exact .inr ⟨trivial, rfl, rfl, rfl, trivial⟩

theorem matchReplies_matchedWith (pending : PendingRequest) (peer : PublicKey) :
    (⟨request, UdpState.matchReplies request pending⟩ : Handled).MatchedWith peer ↔
      pending.requesterPubkey = peer := by
  simp only [Handled.MatchedWith, matchReplies_toNew]
  constructor
  · rintro ⟨_, _, same, _, _⟩
    exact same
  · rintro same
    exact ⟨_, _, same, rfl, rfl⟩

theorem matchReplies_not_lost (pending : PendingRequest) :
    ¬ (⟨request, UdpState.matchReplies request pending⟩ : Handled).AnsweredLost := by
  simp [Handled.AnsweredLost, UdpState.matchReplies]

theorem matchReplies_not_leftPending (pending : PendingRequest) :
    ¬ (⟨request, UdpState.matchReplies request pending⟩ : Handled).LeftPending := by
  simp [Handled.LeftPending, UdpState.matchReplies]

theorem lostReply_answeredLost (peer : PublicKey) (addr : SocketAddrV4) :
    (⟨request, [⟨request.addr, .lostConnectionRequest peer addr⟩]⟩ : Handled).AnsweredLost :=
  ⟨_, _, _, List.mem_singleton_self _⟩

theorem lostReply_not_toNew (peer partner : PublicKey) (addr address : SocketAddrV4) (sessionId : UInt32) :
    ¬ (⟨request, [⟨request.addr, .lostConnectionRequest peer addr⟩]⟩ : Handled).ToNew partner address sessionId := by
  simp [Handled.ToNew]

theorem noReply_not_lost : ¬ (⟨request, []⟩ : Handled).AnsweredLost := by
  simp [Handled.AnsweredLost]

theorem noReply_not_toNew (partner : PublicKey) (address : SocketAddrV4) (sessionId : UInt32) :
    ¬ (⟨request, []⟩ : Handled).ToNew partner address sessionId := by
  simp [Handled.ToNew]

end Replies

/-- The pending table holds exactly the open slots of the history. -/
def TableRefines (run : ServerRun) : Prop :=
  ∀ requester target pending, run.state.pending requester target = some pending ↔
    OpenSlot run.handled run.clock requester target pending

/-- Cleaning up restricts the table to the slots that are still open. -/
theorem TableRefines.cleanup {run : ServerRun} (refines : TableRefines run) {now : Instant}
    (ordered : run.clock ≤ now) (requester target : PublicKey) (pending : PendingRequest) :
    (run.state.cleanup now).pending requester target = some pending ↔
      OpenSlot run.handled now requester target pending := by
  rw [UdpState.cleanup_pending_eq_some, refines, openSlot_clock ordered]

/-- Every handled request keeps the table and the history together. -/
theorem TableRefines.receive {run : ServerRun} (refines : TableRefines run) (request : AcceptedRequest)
    (ordered : run.clock ≤ request.now) : TableRefines (run.receive request) := by
  intro requester target pending
  have cleaned := refines.cleanup ordered
  rw [ServerRun.receive]
  generalize outcome : run.state.handle request = result
  have handled := run.state.handle_case request
  rw [outcome] at handled
  cases handled with
  | lost activeSession stored same =>
      have other : ¬ OwnRequest requester ⟨request, [⟨request.addr,
          .lostConnectionRequest activeSession.remotePeer activeSession.remoteAddr⟩]⟩ :=
        fun own => own.2 (lostReply_answeredLost request _ _)
      rw [openSlot_snoc_other other, cleaned]
      refine ⟨fun slot => ⟨slot, ?_⟩, fun slot => slot.1⟩
      rintro ⟨_, addr, sessionId, toNew⟩
      exact lostReply_not_toNew request _ _ _ _ _ toNew
  | matched before after peerPubkey found notLost listed absent present =>
      have partner := ((cleaned peerPubkey request.senderPubkey found).mp present).requesterPubkey
      rw [UdpState.consumed_pending]
      by_cases sender : requester = request.senderPubkey
      · have own : OwnRequest requester ⟨request, UdpState.matchReplies request found⟩ :=
          ⟨sender.symm, matchReplies_not_lost request found⟩
        rw [if_pos (.inl sender), openSlot_snoc_own own]
        simp only [reduceCtorEq, false_iff]
        exact fun slot => matchReplies_not_leftPending request found slot.1
      · have other : ¬ OwnRequest requester ⟨request, UdpState.matchReplies request found⟩ :=
          fun own => sender own.1.symm
        rw [openSlot_snoc_other other, matchReplies_matchedWith, partner]
        split_ifs with consumed
        · simp only [false_iff, not_and]
          intro _ kept
          rcases consumed with own | ⟨rfl, rfl⟩
          · exact absurd own sender
          · exact kept rfl rfl
        · rw [cleaned]
          refine ⟨fun slot => ⟨slot, ?_⟩, fun slot => slot.1⟩
          rintro ⟨rfl, rfl⟩
          exact consumed (.inr ⟨rfl, rfl⟩)
  | placed notLost absent =>
      rw [UdpState.placed_pending]
      by_cases sender : requester = request.senderPubkey
      · have own : OwnRequest requester ⟨request, []⟩ := ⟨sender.symm, noReply_not_lost request⟩
        have fresh : Fresh request.now (UdpState.pendingOf request) := by
          simp [Fresh, Instant.elapsed, UdpState.pendingOf, Duration.fromSecs, requestTimeoutS]
        rw [if_pos sender, openSlot_snoc_own own]
        split_ifs with named
        · simp only [Option.some.injEq]
          exact ⟨fun same => ⟨rfl, named, fresh, same.symm⟩, fun slot => slot.2.2.2.symm⟩
        · simp only [false_iff]
          exact fun slot => named slot.2.1
      · have other : ¬ OwnRequest requester ⟨request, []⟩ := fun own => sender own.1.symm
        rw [if_neg sender, openSlot_snoc_other other, cleaned]
        refine ⟨fun slot => ⟨slot, ?_⟩, fun slot => slot.1⟩
        rintro ⟨_, addr, sessionId, toNew⟩
        exact noReply_not_toNew request _ _ _ toNew

/-- In every reachable state the pending table is the history's set of open slots. -/
theorem serverRun_tableRefines {run : ServerRun} (reachable : serverMachine.Reachable run) : TableRefines run := by
  refine reachable.invariant TableRefines ?_ ?_
  · rintro run rfl requester target pending
    constructor
    · intro found
      simp [ServerRun.start, UdpState.new, UdpState.pending] at found
    · rintro ⟨index, origin, waiting, _⟩
      exact absurd waiting.latest.1 (Nat.not_lt_zero index)
  · intro run request _ refines ordered
    exact refines.receive request ordered

end RepriseP2p.Udp
