/-
This file proves when a request replaces the sender's earlier slot, and that it leaves the slots of other clients
alone.
-/

import RepriseP2p.Udp.ServerTables

namespace RepriseP2p.Udp

/-- Every entry names its owner, and its session is not the one that is stored for its owner. -/
structure UdpState.SlotsOwned (state : UdpState) : Prop where
  owner : ∀ requester target pending, state.pending requester target = some pending →
    pending.requesterPubkey = requester
  unmatched : ∀ requester target pending (activeSession : ActiveSession),
    state.pending requester target = some pending → state.lastSessionIds[requester]? = some activeSession →
    activeSession.sessionId ≠ pending.requesterSessionId

theorem UdpState.SlotsOwned.cleanup {state : UdpState} (owned : state.SlotsOwned) (now : Instant) :
    (state.cleanup now).SlotsOwned where
  owner requester target pending found :=
    owned.owner requester target pending ((state.cleanup_pending_eq_some _ _ _ _).mp found).1
  unmatched requester target pending activeSession found stored :=
    owned.unmatched requester target pending activeSession ((state.cleanup_pending_eq_some _ _ _ _).mp found).1 stored

theorem UdpState.SlotsOwned.handle {state : UdpState} (owned : state.SlotsOwned) (request : AcceptedRequest) :
    (state.handle request).1.SlotsOwned := by
  constructor
  · intro requester target pending found
    obtain old | ⟨own, placed⟩ := state.handle_row request requester
    · exact owned.owner requester target pending (old target pending found)
    · rw [(placed target pending found).2]
      exact own.symm
  · intro requester target pending activeSession found stored
    have cleaned := owned.cleanup request.now
    generalize outcome : state.handle request = result at found stored
    have handled := state.handle_case request
    rw [outcome] at handled
    cases handled with
    | lost sameSession before same => exact cleaned.unmatched requester target pending activeSession found stored
    | matched before after peerPubkey taken notLost listed absent present =>
        -- The sender has a new stored session, but no entry is left in its slot.
        rw [consumed_pending] at found
        split_ifs at found with gone
        rw [not_or] at gone
        rw [consumed, Std.ExtTreeMap.getElem?_insert,
          if_neg fun equal => gone.1 (Std.LawfulEqCmp.compare_eq_iff_eq.mp equal).symm] at stored
        exact cleaned.unmatched requester target pending activeSession found stored
    | placed notLost absent =>
        rw [placed_pending] at found
        split_ifs at found with own
        · cases found
          intro same
          exact notLost ⟨activeSession, own ▸ stored, same⟩
        · exact cleaned.unmatched requester target pending activeSession found stored

/-- Whatever requests the server has handled, the slots are owned. -/
theorem UdpState.after_slotsOwned (requests : List AcceptedRequest) : (after requests).SlotsOwned := by
  induction requests using List.reverseRecOn with
  | nil => constructor <;> simp [after, new, pending]
  | append_singleton requests request ih =>
      rw [after, List.foldl_append]
      exact ih.handle request

/-- Every pending entry of the sender was created by this request. -/
def UdpState.OnlyFrom (state : UdpState) (request : AcceptedRequest) : Prop :=
  ∀ target pending, state.pending request.senderPubkey target = some pending →
    pending = pendingOf request ∧ target ∈ request.peerPubkeys

/-- After a request every pending entry of its sender was created by it exactly when it is not answered as lost, or
the sender had no fresh entry before. -/
theorem server_replaces_slot_iff (requests : List AcceptedRequest) (request : AcceptedRequest) :
    ((UdpState.after requests).handle request).1.OnlyFrom request ↔
      ¬ (UdpState.after requests).lost request ∨
        ∀ target pending, (UdpState.after requests).pending request.senderPubkey target = some pending →
          ¬ Fresh request.now pending := by
  have owned := UdpState.after_slotsOwned requests
  generalize UdpState.after requests = state at owned
  generalize outcome : state.handle request = result
  have handled := state.handle_case request
  rw [outcome] at handled
  cases handled with
  | lost activeSession stored same =>
      constructor
      · intro only
        refine .inr ?_
        intro target pending found fresh
        obtain ⟨rfl, _⟩ := only target pending ((state.cleanup_pending_eq_some _ _ _ _).mpr ⟨found, fresh⟩)
        exact owned.unmatched request.senderPubkey target _ activeSession found stored same
      · intro condition target pending kept
        obtain ⟨found, fresh⟩ := (state.cleanup_pending_eq_some _ _ _ _).mp kept
        obtain notLost | stale := condition
        · exact absurd ⟨activeSession, stored, same⟩ notLost
        · exact absurd fresh (stale target pending found)
  | matched before after peerPubkey pending notLost listed absent present =>
      refine ⟨fun _ => .inl notLost, ?_⟩
      intro _ target other found
      simp at found
  | placed notLost absent =>
      refine ⟨fun _ => .inl notLost, ?_⟩
      intro _ target other found
      rw [UdpState.placed_pending, if_pos rfl] at found
      split_ifs at found with named
      cases found
      exact ⟨rfl, named⟩

/-- Client 1 has matched client 2 in session 12, and it waits for client 3 in session 13. -/
def sampleMatchedWaiting : List AcceptedRequest :=
  [sampleRequest 2 12 1 none 0, sampleRequest 1 11 2 none 0, sampleRequest 1 13 3 none 1]

/-- Client 1 asks in session 12. The request counts as lost, and the slot of session 13 stays. -/
theorem server_replaces_slot_fails : ¬ ∀ requests request,
    ((UdpState.after requests).handle request).1.OnlyFrom request := by
  intro claim
  have old : ((UdpState.after sampleMatchedWaiting).handle (sampleRequest 1 12 3 none 2)).1.pending (sampleKey 1)
      (sampleKey 3) = some (UdpState.pendingOf (sampleRequest 1 13 3 none 1)) := by
    decide +kernel
  obtain ⟨same, _⟩ := claim sampleMatchedWaiting (sampleRequest 1 12 3 none 2) (sampleKey 3) _ old
  revert same
  decide

theorem Verdict.apply_lastSessionIds {request : AcceptedRequest} {state : UdpState} {client : PublicKey}
    (verdict : Verdict) (other : client ≠ request.senderPubkey) :
    (verdict.apply request state).lastSessionIds[client]? = state.lastSessionIds[client]? := by
  cases verdict with
  | lost activeSession => rfl
  | placed => rfl
  | matched peerPubkey pending =>
      rw [apply, UdpState.consumed, Std.ExtTreeMap.getElem?_insert,
        if_neg fun equal => other (Std.LawfulEqCmp.compare_eq_iff_eq.mp equal).symm]

/-- A decision for a match takes the entry of the partner. -/
theorem UdpState.verdict_matched {state : UdpState} {request : AcceptedRequest} {peerPubkey : PublicKey}
    {pending : PendingRequest} (matched : state.verdict request = .matched peerPubkey pending) :
    state.pending peerPubkey request.senderPubkey = some pending := by
  rw [verdict] at matched
  split at matched
  · cases matched
  · split at matched
    · rename_i partner taken found
      cases matched
      obtain ⟨listedPeer, _, here⟩ := List.exists_of_findSome?_eq_some found
      obtain ⟨_, there, same⟩ := Option.map_eq_some_iff.mp here
      cases same
      exact there
    · cases matched

/-- A request changes no fresh entry between two other clients. It removes a fresh entry of another client for the
sender only when its answers match that client with the sender. It changes no session of another client. -/
theorem server_frame (requests : List AcceptedRequest) (request : AcceptedRequest) :
    let before := UdpState.after requests
    let handled := before.handle request
    (∀ requester target pending, requester ≠ request.senderPubkey → target ≠ request.senderPubkey →
      Fresh request.now pending →
      (handled.1.pending requester target = some pending ↔ before.pending requester target = some pending)) ∧
    (∀ requester pending, requester ≠ request.senderPubkey → Fresh request.now pending →
      before.pending requester request.senderPubkey = some pending →
      handled.1.pending requester request.senderPubkey ≠ some pending →
      pending.requesterPubkey = requester ∧ handled.2 = UdpState.matchReplies request pending) ∧
    ∀ client, client ≠ request.senderPubkey → handled.1.lastSessionIds[client]? = before.lastSessionIds[client]? := by
  intro before handled
  have owned : before.SlotsOwned := UdpState.after_slotsOwned requests
  have handling : handled = _ := before.handle_eq request
  rw [handling]
  generalize decision : (before.cleanup request.now).verdict request = verdict
  refine ⟨?_, ?_, ?_⟩
  · intro requester target pending other apart fresh
    rw [UdpState.apply_pending_of_ne other (.inl apart), UdpState.cleanup_pending_eq_some]
    exact and_iff_left fresh
  · intro requester pending other fresh found removed
    refine ⟨owned.owner _ _ _ found, ?_⟩
    have kept := (before.cleanup_pending_eq_some _ _ _ _).mpr ⟨found, fresh⟩
    cases verdict with
    | matched peerPubkey taken =>
        by_cases partner : peerPubkey = requester
        · have there := UdpState.verdict_matched decision
          rw [partner, kept] at there
          cases there
          rfl
        · have avoids : (Verdict.matched peerPubkey taken).Avoids requester := partner
          rw [UdpState.apply_pending_of_ne other (.inr avoids)] at removed
          exact absurd kept removed
    | lost activeSession => exact absurd kept removed
    | placed =>
        have avoids : Verdict.placed.Avoids requester := trivial
        rw [UdpState.apply_pending_of_ne other (.inr avoids)] at removed
        exact absurd kept removed
  · intro client other
    rw [Verdict.apply_lastSessionIds verdict other, UdpState.cleanup_lastSessionIds]

/-- Client 2 takes the entry of client 1, and client 3 keeps its entry for client 4. -/
theorem server_frame_sample :
    let before := UdpState.after [sampleRequest 1 11 2 none 0, sampleRequest 3 13 4 none 0]
    let handled := before.handle (sampleRequest 2 12 1 none 1)
    handled.1.pending (sampleKey 3) (sampleKey 4) = some (UdpState.pendingOf (sampleRequest 3 13 4 none 0)) ∧
      handled.2 = UdpState.matchReplies (sampleRequest 2 12 1 none 1)
        (UdpState.pendingOf (sampleRequest 1 11 2 none 0)) ∧
      handled.1.lastSessionIds[sampleKey 4]? = before.lastSessionIds[sampleKey 4]? := by
  intro before handled
  obtain ⟨others, partner, sessions⟩ :=
    server_frame [sampleRequest 1 11 2 none 0, sampleRequest 3 13 4 none 0] (sampleRequest 2 12 1 none 1)
  refine ⟨?_, ?_, ?_⟩
  · exact (others _ _ _ (by decide) (by decide) (by decide +kernel)).mpr (by decide +kernel)
  · exact (partner (sampleKey 1) _ (by decide) (by decide +kernel) (by decide +kernel) (by decide +kernel)).2
  · exact sessions _ (by decide)

end RepriseP2p.Udp
