/-
This file proves the representation invariant of the pending table: every row comes from one request of its owner.
-/

import RepriseP2p.Udp.ServerDisclosure
import RepriseP2p.Udp.ServerTables

namespace RepriseP2p.Udp

open NestedMap

variable {SigningKey DateTime : Type}

/-- This request of the client listed every target of the client's row, and placed its entries. -/
structure UdpState.RowFrom (state : UdpState) (requester : PublicKey) (origin : AcceptedRequest) : Prop where
  sender : origin.senderPubkey = requester
  entries : ∀ target pending, state.pending requester target = some pending →
    target ∈ origin.peerPubkeys ∧ pending = pendingOf origin

/-- No row is empty, and every row comes from one accepted request. -/
structure UdpState.Intact (state : UdpState) (accepted : AcceptedRequest → Prop) : Prop where
  noEmptyRow : NoEmptyRow state.requests
  origin : ∀ requester target pending, state.pending requester target = some pending →
    ∃ origin, accepted origin ∧ state.RowFrom requester origin

section Tables

variable {accepted more : AcceptedRequest → Prop} {state : UdpState}

theorem UdpState.new_intact : UdpState.new.Intact accepted where
  noEmptyRow outer row found := by simp [new] at found
  origin _ _ _ found := by simp [new, UdpState.pending] at found

theorem UdpState.Intact.mono (intact : state.Intact accepted) (grows : ∀ origin, accepted origin → more origin) :
    state.Intact more := by
  refine ⟨intact.noEmptyRow, ?_⟩
  intro requester target pending found
  obtain ⟨origin, there, row⟩ := intact.origin requester target pending found
  exact ⟨origin, grows origin there, row⟩

theorem UdpState.Intact.handle {request : AcceptedRequest} (intact : state.Intact accepted)
    (there : accepted request) : (state.handle request).1.Intact accepted := by
  refine ⟨?_, ?_⟩
  · rw [state.handle_eq request]
    exact ((state.cleanup_settled request.now).apply rfl _).noEmptyRow
  · intro requester target pending found
    obtain old | ⟨own, placed⟩ := state.handle_row request requester
    · obtain ⟨origin, known, row⟩ := intact.origin requester target pending (old target pending found)
      refine ⟨origin, known, row.sender, ?_⟩
      intro listed waiting kept
      exact row.entries listed waiting (old listed waiting kept)
    · exact ⟨request, there, own.symm, placed⟩

end Tables

variable (crates : Crates SigningKey DateTime)

/-- The request came in one of these datagrams. -/
def CameIn (log : List (Received DateTime)) (request : AcceptedRequest) : Prop :=
  ∃ received ∈ log, received.request crates = some request

theorem UdpState.afterReceived_intact (log : List (Received DateTime)) :
    (UdpState.afterReceived crates log).Intact (CameIn crates log) := by
  induction log using List.reverseRecOn with
  | nil => exact new_intact
  | append_singleton log received ih =>
      have grown : (afterReceived crates log).Intact (CameIn crates (log ++ [received])) := by
        apply ih.mono
        rintro origin ⟨earlier, member, carried⟩
        exact ⟨earlier, List.mem_append_left _ member, carried⟩
      rw [afterReceived, List.foldl_append]
      change ((afterReceived crates log).receive crates received).1.Intact _
      cases carried : received.request crates with
      | none =>
          rw [receive_of_no_request crates carried]
          exact grown
      | some request =>
          rw [receive_of_request crates carried]
          exact grown.handle ⟨received, by simp, carried⟩

/-- After any datagrams, every inner map holds one to ten entries. They carry the key, the address and the session of
one accepted request of their owner, which listed all their targets. Right after a clean-up all entries are younger
than ten seconds. -/
theorem server_rows_intact (log : List (Received DateTime)) :
    let state := UdpState.afterReceived crates log
    (∀ requester innerMap, state.requests[requester]? = some innerMap →
      innerMap.isEmpty = false ∧ innerMap.size ≤ 10 ∧
      ∃ origin, CameIn crates log origin ∧ origin.senderPubkey = requester ∧
        ∀ target pending, innerMap[target]? = some pending →
          target ∈ origin.peerPubkeys ∧ pending.requesterPubkey = requester ∧
          pending.requesterAddr = origin.addr ∧ pending.requesterSessionId = origin.sessionId) ∧
    ∀ (now : Instant) (requester target : PublicKey) (pending : PendingRequest),
      (state.cleanup now).pending requester target = some pending →
      now.elapsed pending.tm < Duration.fromSecs 10 := by
  intro state
  have intact : state.Intact (CameIn crates log) := UdpState.afterReceived_intact crates log
  constructor
  · intro requester innerMap found
    obtain ⟨listed, waiting, inside⟩ := intact.noEmptyRow.exists_entry found
    obtain ⟨origin, there, row⟩ := intact.origin requester listed waiting inside
    have entries (target : PublicKey) (pending : PendingRequest) (here : innerMap[target]? = some pending) :
        target ∈ origin.peerPubkeys ∧ pending = UdpState.pendingOf origin :=
      row.entries target pending ((entry_of_row found target).trans here)
    refine ⟨intact.noEmptyRow requester innerMap found, ?_, origin, there, row.sender, ?_⟩
    · have small : innerMap.size ≤ origin.peerPubkeys.length :=
        size_le_length fun target pending here => (entries target pending here).1
      exact small.trans origin.listed.2
    · intro target pending here
      obtain ⟨named, rfl⟩ := entries target pending here
      exact ⟨named, row.sender, rfl, rfl⟩
  · intro now requester target pending found
    exact (state.cleanup_settled now).fresh requester target pending found

end RepriseP2p.Udp
