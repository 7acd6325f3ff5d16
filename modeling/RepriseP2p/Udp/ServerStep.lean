/-
This file says once what the handling of a request can do.
-/

import RepriseP2p.Udp.Server

namespace RepriseP2p.Udp

open NestedMap

/-- The pending entry that `requester` has placed for `target`. -/
def UdpState.pending (state : UdpState) (requester target : PublicKey) : Option PendingRequest :=
  entry state.requests requester target

/-- An entry younger than the timeout. -/
def Fresh (now : Instant) (pending : PendingRequest) : Prop :=
  now.elapsed pending.tm < Duration.fromSecs requestTimeoutS

instance (now : Instant) (pending : PendingRequest) : Decidable (Fresh now pending) :=
  inferInstanceAs (Decidable (_ < _))

/-- Cleaning up keeps exactly the fresh entries. -/
theorem UdpState.cleanup_pending (state : UdpState) (now : Instant) (requester target : PublicKey) :
    (state.cleanup now).pending requester target =
      (state.pending requester target).filter fun pending => decide (Fresh now pending) := by
  simp only [pending, cleanup, entry_retain, Fresh, Duration.asSecs_lt_iff]
  rfl

theorem UdpState.cleanup_pending_eq_some (state : UdpState) (now : Instant) (requester target : PublicKey)
    (pending : PendingRequest) :
    (state.cleanup now).pending requester target = some pending ↔
      state.pending requester target = some pending ∧ Fresh now pending := by
  rw [cleanup_pending, Option.filter_eq_some_iff, decide_eq_true_eq]

@[simp] theorem UdpState.cleanup_lastSessionIds (state : UdpState) (now : Instant) :
    (state.cleanup now).lastSessionIds = state.lastSessionIds := rfl

/-- A list has a first element with a value, or none. -/
theorem exists_first_or_none {α β : Type} (find : α → Option β) (items : List α) :
    (∀ item ∈ items, find item = none) ∨
      ∃ before item after value, items = before ++ item :: after ∧
        (∀ earlier ∈ before, find earlier = none) ∧ find item = some value := by
  induction items with
  | nil => exact .inl (by simp)
  | cons head tail ih =>
      cases found : find head with
      | some value => exact .inr ⟨[], head, tail, value, rfl, by simp, found⟩
      | none =>
          rcases ih with all | ⟨before, item, after, value, rfl, earlier, here⟩
          · exact .inl (by simpa [found] using all)
          · exact .inr ⟨head :: before, item, after, value, rfl, by simpa [found] using earlier, here⟩

/-- The loop passes a peer without an entry for the sender and changes nothing. -/
theorem UdpState.takePending_skip {senderPubkey peerPubkey : PublicKey} {peerPubkeys : List PublicKey}
    {requests : NestedMap PublicKey PublicKey PendingRequest}
    (absent : entry requests peerPubkey senderPubkey = none) :
    takePending senderPubkey (peerPubkey :: peerPubkeys) requests = takePending senderPubkey peerPubkeys requests := by
  rw [takePending]
  cases found : requests[peerPubkey]? with
  | none => rfl
  | some innerMap =>
      rw [entry_of_row found] at absent
      simp only [absent, erase_absent absent, insert_same found]

theorem UdpState.takePending_none {senderPubkey : PublicKey} {peerPubkeys : List PublicKey}
    {requests : NestedMap PublicKey PublicKey PendingRequest}
    (absent : ∀ peerPubkey ∈ peerPubkeys, entry requests peerPubkey senderPubkey = none) :
    takePending senderPubkey peerPubkeys requests = (none, requests) := by
  induction peerPubkeys with
  | nil => rfl
  | cons peerPubkey peerPubkeys ih =>
      rw [takePending_skip (absent peerPubkey (by simp))]
      exact ih fun later member => absent later (by simp [member])

/-- The loop takes the entry of the first peer that has one. -/
theorem UdpState.takePending_first {senderPubkey peerPubkey : PublicKey} {before after : List PublicKey}
    {requests : NestedMap PublicKey PublicKey PendingRequest} {pending : PendingRequest}
    (absent : ∀ earlier ∈ before, entry requests earlier senderPubkey = none)
    (present : entry requests peerPubkey senderPubkey = some pending) :
    takePending senderPubkey (before ++ peerPubkey :: after) requests =
      (some (peerPubkey, pending), removeEntry requests peerPubkey senderPubkey) := by
  induction before with
  | nil =>
      rw [List.nil_append, takePending, removeEntry]
      cases found : requests[peerPubkey]? with
      | none =>
          rw [entry_of_no_row found] at present
          cases present
      | some innerMap =>
          rw [entry_of_row found] at present
          simp only [present]
  | cons earlier before ih =>
      rw [List.cons_append, takePending_skip (absent earlier (by simp))]
      exact ih fun later member => absent later (by simp [member])

/-- The table after a match of the sender with the entry of `peerPubkey`. -/
def UdpState.consumed (state : UdpState) (request : AcceptedRequest) (peerPubkey : PublicKey)
    (pending : PendingRequest) : UdpState :=
  ⟨(dropEmpty (removeEntry state.requests peerPubkey request.senderPubkey) peerPubkey).erase request.senderPubkey,
    state.lastSessionIds.insert request.senderPubkey
      ⟨pending.requesterSessionId, pending.requesterAddr, pending.requesterPubkey⟩⟩

/-- The table after a request that matched nobody. -/
def UdpState.placed (state : UdpState) (request : AcceptedRequest) : UdpState :=
  ⟨state.requests.insert request.senderPubkey (constantRow request.peerPubkeys (pendingOf request)),
    state.lastSessionIds⟩

@[simp] theorem UdpState.consumed_pending (state : UdpState) (request : AcceptedRequest)
    (peerPubkey requester target : PublicKey) (pending : PendingRequest) :
    (state.consumed request peerPubkey pending).pending requester target =
      if requester = request.senderPubkey ∨ requester = peerPubkey ∧ target = request.senderPubkey then none
      else state.pending requester target := by
  simp only [UdpState.pending, consumed, entry_erase, entry_dropEmpty, entry_removeEntry]
  by_cases sender : requester = request.senderPubkey
  · simp [sender]
  · simp [sender]

@[simp] theorem UdpState.placed_pending (state : UdpState) (request : AcceptedRequest) (requester target : PublicKey) :
    (state.placed request).pending requester target =
      if requester = request.senderPubkey then
        if target ∈ request.peerPubkeys then some (pendingOf request) else none
      else state.pending requester target := by
  simp only [UdpState.pending, placed, entry_insert, getElem?_constantRow]
  split_ifs <;> rfl

/-- The stored session of the sender is the one of the request. -/
def UdpState.lost (state : UdpState) (request : AcceptedRequest) : Prop :=
  ∃ activeSession, state.lastSessionIds[request.senderPubkey]? = some activeSession ∧
    activeSession.sessionId = request.sessionId

/-- The three outcomes of a request: a lost reply, a match with the first listed peer that has a fresh entry
for the sender, or a new slot. -/
inductive UdpState.HandleCase (state : UdpState) (request : AcceptedRequest) : UdpState × List Datagram → Prop where
  | lost (activeSession : ActiveSession)
      (stored : state.lastSessionIds[request.senderPubkey]? = some activeSession)
      (same : activeSession.sessionId = request.sessionId) :
      HandleCase state request (state.cleanup request.now,
        [⟨request.addr, .lostConnectionRequest activeSession.remotePeer activeSession.remoteAddr⟩])
  | matched (before after : List PublicKey) (peerPubkey : PublicKey) (pending : PendingRequest)
      (notLost : ¬ state.lost request) (listed : request.peerPubkeys = before ++ peerPubkey :: after)
      (absent : ∀ earlier ∈ before, (state.cleanup request.now).pending earlier request.senderPubkey = none)
      (present : (state.cleanup request.now).pending peerPubkey request.senderPubkey = some pending) :
      HandleCase state request ((state.cleanup request.now).consumed request peerPubkey pending,
        matchReplies request pending)
  | placed (notLost : ¬ state.lost request)
      (absent : ∀ peerPubkey ∈ request.peerPubkeys,
        (state.cleanup request.now).pending peerPubkey request.senderPubkey = none) :
      HandleCase state request ((state.cleanup request.now).placed request, [])

theorem UdpState.matchOrPlace_case (state : UdpState) (request : AcceptedRequest) (notLost : ¬ state.lost request) :
    state.HandleCase request ((state.cleanup request.now).matchOrPlace request) := by
  rcases exists_first_or_none
      (fun peerPubkey => (state.cleanup request.now).pending peerPubkey request.senderPubkey) request.peerPubkeys with
    absent | ⟨before, peerPubkey, after, pending, listed, absent, present⟩
  · rw [matchOrPlace, takePending_none absent]
    exact .placed notLost absent
  · rw [matchOrPlace, listed, takePending_first absent present]
    exact .matched before after peerPubkey pending notLost listed absent present

/-- Every handling is one of the three outcomes. -/
theorem UdpState.handle_case (state : UdpState) (request : AcceptedRequest) :
    state.HandleCase request (state.handle request) := by
  rw [handle]
  cases stored : (state.cleanup request.now).lastSessionIds[request.senderPubkey]? with
  | none =>
      apply matchOrPlace_case
      rintro ⟨activeSession, found, _⟩
      rw [cleanup_lastSessionIds, found] at stored
      cases stored
  | some activeSession =>
      dsimp only
      split_ifs with same
      · exact .lost activeSession stored same
      · apply matchOrPlace_case
        rintro ⟨other, found, equal⟩
        rw [cleanup_lastSessionIds, found] at stored
        cases stored
        exact same equal

/-- A request drops entries of a client, or it replaces the row of its sender. -/
theorem UdpState.handle_row (state : UdpState) (request : AcceptedRequest) (requester : PublicKey) :
    (∀ target pending, (state.handle request).1.pending requester target = some pending →
      state.pending requester target = some pending) ∨
    (requester = request.senderPubkey ∧ ∀ target pending,
      (state.handle request).1.pending requester target = some pending →
      target ∈ request.peerPubkeys ∧ pending = pendingOf request) := by
  have cleaned (target : PublicKey) (pending : PendingRequest)
      (kept : (state.cleanup request.now).pending requester target = some pending) :
      state.pending requester target = some pending :=
    ((state.cleanup_pending_eq_some _ _ _ _).mp kept).1
  generalize outcome : state.handle request = result
  have handled := state.handle_case request
  rw [outcome] at handled
  cases handled with
  | lost activeSession stored same => exact .inl cleaned
  | matched before after peerPubkey taken notLost listed absent present =>
      refine .inl ?_
      intro target pending found
      rw [consumed_pending] at found
      split_ifs at found
      exact cleaned target pending found
  | placed notLost absent =>
      by_cases own : requester = request.senderPubkey
      · refine .inr ⟨own, ?_⟩
        intro target pending found
        rw [placed_pending, if_pos own] at found
        split_ifs at found with named
        exact ⟨named, (Option.some.inj found).symm⟩
      · refine .inl ?_
        intro target pending found
        rw [placed_pending, if_neg own] at found
        exact cleaned target pending found

end RepriseP2p.Udp
