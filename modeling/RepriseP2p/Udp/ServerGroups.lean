/-
This file proves that the server answers a closed group of clients as if it had no other clients.
-/

import RepriseP2p.Udp.ServerMatching
import RepriseP2p.Udp.ServerSlots

namespace RepriseP2p.Udp

/-- A stale entry stays stale. -/
theorem Fresh.of_later {earlier later : Instant} {pending : PendingRequest} (fresh : Fresh later pending)
    (ordered : earlier ≤ later) : Fresh earlier pending :=
  (Nat.sub_le_sub_right ordered pending.tm).trans_lt fresh

/-- A later cleaning covers an earlier one. -/
theorem UdpState.cleanup_cleanup_pending (state : UdpState) {earlier later : Instant} (ordered : earlier ≤ later)
    (requester target : PublicKey) : ((state.cleanup earlier).cleanup later).pending requester target =
      (state.cleanup later).pending requester target := by
  rw [cleanup_pending, cleanup_pending, cleanup_pending, Option.filter_filter]
  congr 1
  funext pending
  by_cases fresh : Fresh later pending
  · simp [fresh, fresh.of_later ordered]
  · simp [fresh]

/-- The members of the group list each other only. -/
def AcceptedRequest.Closed (group : PublicKey → Bool) (request : AcceptedRequest) : Prop :=
  group request.senderPubkey = true → ∀ peerPubkey ∈ request.peerPubkeys, group peerPubkey = true

instance (group : PublicKey → Bool) (request : AcceptedRequest) : Decidable (request.Closed group) :=
  inferInstanceAs (Decidable (_ → _))

/-- Two servers that agree about a group from this time on. In the first one members wait for members only. -/
structure UdpState.Agrees (group : PublicKey → Bool) (clock : Instant) (state alone : UdpState) : Prop where
  sessions : ∀ client, group client = true → state.lastSessionIds[client]? = alone.lastSessionIds[client]?
  entries : ∀ now requester target, clock ≤ now → group requester = true → group target = true →
    (state.cleanup now).pending requester target = (alone.cleanup now).pending requester target
  inside : ∀ requester target pending, state.pending requester target = some pending → group requester = true →
    group target = true

namespace UdpState

variable {group : PublicKey → Bool} {clock : Instant} {state alone : UdpState} {request : AcceptedRequest}

/-- A request of a closed group keeps the waiting inside. -/
theorem Agrees.inside_handle (agrees : state.Agrees group clock alone) (closed : request.Closed group)
    (requester target : PublicKey) (pending : PendingRequest)
    (found : (state.handle request).1.pending requester target = some pending) (member : group requester = true) :
    group target = true := by
  obtain old | ⟨own, placed⟩ := state.handle_row request requester
  · exact agrees.inside requester target pending (old target pending found) member
  · exact closed (own ▸ member) target (placed target pending found).1

/-- The server decides about a member as it does alone. -/
theorem Agrees.verdict_eq (agrees : state.Agrees group clock alone) (ordered : clock ≤ request.now)
    (closed : request.Closed group) (member : group request.senderPubkey = true) :
    (state.cleanup request.now).verdict request = (alone.cleanup request.now).verdict request := by
  have partner : (state.cleanup request.now).partner request = (alone.cleanup request.now).partner request := by
    apply findSome?_congr
    intro peerPubkey listed
    rw [agrees.entries request.now peerPubkey request.senderPubkey ordered (closed member peerPubkey listed) member]
  rw [verdict, verdict, cleanup_lastSessionIds, cleanup_lastSessionIds, agrees.sessions _ member, partner]

/-- The same decision keeps two servers in agreement about a session. -/
theorem apply_lastSessionIds_congr {other : UdpState} {client : PublicKey} (verdict : Verdict)
    (same : state.lastSessionIds[client]? = other.lastSessionIds[client]?) :
    (verdict.apply request state).lastSessionIds[client]? = (verdict.apply request other).lastSessionIds[client]? := by
  cases verdict with
  | lost activeSession => exact same
  | placed => exact same
  | matched peerPubkey pending =>
      simp only [Verdict.apply, consumed, Std.ExtTreeMap.getElem?_insert]
      split_ifs
      · rfl
      · exact same

/-- A member gets the same answer, and the servers still agree. -/
theorem Agrees.handle_member (agrees : state.Agrees group clock alone) (ordered : clock ≤ request.now)
    (closed : request.Closed group) (member : group request.senderPubkey = true) :
    (state.handle request).2 = (alone.handle request).2 ∧
      (state.handle request).1.Agrees group request.now (alone.handle request).1 := by
  have inside := agrees.inside_handle closed
  have handled := state.handle_eq request
  rw [agrees.verdict_eq ordered closed member] at handled
  rw [handled] at inside ⊢
  rw [alone.handle_eq request]
  generalize (alone.cleanup request.now).verdict request = verdict at inside ⊢
  refine ⟨rfl, ?_, ?_, inside⟩
  · intro client here
    exact apply_lastSessionIds_congr verdict (agrees.sessions client here)
  · intro now requester target later requesterIn targetIn
    have same := agrees.entries request.now requester target ordered requesterIn targetIn
    rw [cleanup_pending, cleanup_pending, apply_pending_congr verdict same]

/-- A request from outside changes nothing that the group sees. -/
theorem Agrees.handle_outsider (agrees : state.Agrees group clock alone) (ordered : clock ≤ request.now)
    (outside : group request.senderPubkey = false) :
    (state.handle request).1.Agrees group request.now alone := by
  have apart (client : PublicKey) (here : group client = true) : client ≠ request.senderPubkey := by
    rintro rfl
    exact Bool.false_ne_true (outside.symm.trans here)
  have inside := agrees.inside_handle fun member => absurd rfl (apart _ member)
  rw [state.handle_eq request] at inside ⊢
  generalize (state.cleanup request.now).verdict request = verdict at inside ⊢
  refine ⟨?_, ?_, inside⟩
  · intro client here
    rw [verdict.apply_lastSessionIds (apart client here)]
    exact agrees.sessions client here
  · intro now requester target later requesterIn targetIn
    have kept : (verdict.apply request (state.cleanup request.now)).pending requester target =
        (state.cleanup request.now).pending requester target :=
      apply_pending_of_ne (apart requester requesterIn) (.inl (apart target targetIn))
    rw [cleanup_pending, kept, ← cleanup_pending, cleanup_cleanup_pending state later]
    exact agrees.entries now requester target (ordered.trans later) requesterIn targetIn

/-- A match joins two members or two outsiders. -/
theorem Agrees.matched_inside (agrees : state.Agrees group clock alone) (closed : request.Closed group)
    (owned : state.SlotsOwned) {peer : PublicKey}
    (matched : (⟨request, (state.handle request).2⟩ : Handled).MatchedWith peer) :
    group peer = group request.senderPubkey := by
  obtain ⟨addr, sessionId, toNew⟩ := matched
  generalize outcome : state.handle request = result at toNew
  have handled := state.handle_case request
  rw [outcome] at handled
  cases handled with
  | lost activeSession stored same => simp [Handled.ToNew] at toNew
  | placed notLost absent => cases toNew
  | matched before after peerPubkey pending notLost listed absent present =>
      have found := ((state.cleanup_pending_eq_some _ _ _ _).mp present).1
      have partner : peer = peerPubkey := by
        have named : peer = pending.requesterPubkey := by
          simp [Handled.ToNew, matchReplies] at toNew
          exact toNew.1
        exact named.trans (owned.owner _ _ _ found)
      subst partner
      cases sender : group request.senderPubkey with
      | true => exact closed sender peer (by rw [listed]; simp)
      | false =>
          rw [Bool.eq_false_iff]
          intro member
          exact Bool.false_ne_true (sender.symm.trans (agrees.inside peer _ pending found member))

end UdpState

/-- The part of the history that is about the group. -/
def ServerRun.about (group : PublicKey → Bool) (run : ServerRun) : List Handled :=
  run.handled.filter fun handled => group handled.request.senderPubkey

/-- The run beside the run of the requests of the group alone. -/
structure ServerRun.Isolated (group : PublicKey → Bool) (requests : List AcceptedRequest) (run : ServerRun) : Prop where
  owned : run.state.SlotsOwned
  alone : ∃ alone, serverMachine.Run .start (requests.filter fun request => group request.senderPubkey) alone ∧
    alone.clock ≤ run.clock ∧ alone.handled = run.about group ∧ run.state.Agrees group run.clock alone.state
  matched : ∀ handled ∈ run.handled, ∀ peer, handled.MatchedWith peer → group peer = group handled.request.senderPubkey

namespace ServerRun

variable {group : PublicKey → Bool} {requests : List AcceptedRequest} {run : ServerRun} {request : AcceptedRequest}

theorem isolated_start : ServerRun.start.Isolated group [] where
  owned := UdpState.after_slotsOwned []
  alone := by
    refine ⟨.start, .nil, le_rfl, rfl, fun _ _ => rfl, fun _ _ _ _ _ _ => rfl, ?_⟩
    intro requester target pending found
    simp [ServerRun.start, UdpState.new, UdpState.pending] at found
  matched := nofun

/-- One more request goes to both runs when it is of a member, and to the whole run only when it is not. -/
theorem Isolated.receive (isolated : run.Isolated group requests) (ordered : run.clock ≤ request.now)
    (closed : request.Closed group) : (run.receive request).Isolated group (requests ++ [request]) := by
  obtain ⟨alone, ran, earlier, answers, agrees⟩ := isolated.alone
  have about : (run.receive request).about group = run.about group ++
      bif group request.senderPubkey then [⟨request, (run.state.handle request).2⟩] else [] := by
    simp only [ServerRun.about, ServerRun.receive, List.filter_append, List.filter_singleton]
  refine ⟨isolated.owned.handle request, ?_, ?_⟩
  · cases member : group request.senderPubkey with
    | true =>
        obtain ⟨same, still⟩ := agrees.handle_member ordered closed member
        refine ⟨alone.receive request, ?_, le_rfl, ?_, still⟩
        · rw [List.filter_append, List.filter_singleton, member]
          exact ran.snoc request (earlier.trans ordered)
        · rw [about, member, ← answers, same]
          rfl
    | false =>
        refine ⟨alone, ?_, earlier.trans ordered, ?_, agrees.handle_outsider ordered member⟩
        · rw [List.filter_append, List.filter_singleton, member]
          simpa using ran
        · rw [about, member, answers]
          simp
  · intro handled member peer matched
    obtain old | new := List.mem_append.mp member
    · exact isolated.matched handled old peer matched
    · obtain rfl := List.mem_singleton.mp new
      exact agrees.matched_inside closed isolated.owned matched

end ServerRun

/-- When the members of a group list each other only, the server answers their requests as it would without the requests
of all other clients, and it matches no member with an outsider. -/
theorem server_groups_isolated {group : PublicKey → Bool} {requests : List AcceptedRequest} {run : ServerRun}
    (ran : serverMachine.Run .start requests run) (closed : ∀ request ∈ requests, request.Closed group) :
    (∃ alone, serverMachine.Run .start (requests.filter fun request => group request.senderPubkey) alone ∧
        alone.handled = run.about group) ∧
      ∀ handled ∈ run.handled, ∀ peer, handled.MatchedWith peer →
        group peer = group handled.request.senderPubkey := by
  have isolated : run.Isolated group requests := by
    induction ran with
    | nil => exact ServerRun.isolated_start
    | snoc request before allowed ih =>
        have earlier := ih fun other member => closed other (List.mem_append_left _ member)
        exact earlier.receive allowed (closed request (by simp))
  obtain ⟨alone, ran, _, answers, _⟩ := isolated.alone
  exact ⟨⟨alone, ran, answers⟩, isolated.matched⟩

/-- The clients 1 and 2 wait for each other, while client 3 asks for both of them. -/
def sampleGroupRequests : List AcceptedRequest :=
  [sampleRequest 3 13 1 (some 2) 0, sampleRequest 1 11 2 none 1, sampleRequest 3 13 2 none 2, sampleRequest 2 12 1 none 3]

def sampleGroup (client : PublicKey) : Bool := client = sampleKey 1 || client = sampleKey 2

theorem server_groups_isolated_sample : ∃ alone,
    serverMachine.Run .start [sampleRequest 1 11 2 none 1, sampleRequest 2 12 1 none 3] alone ∧
      alone.handled = (sampleRun sampleGroupRequests).about sampleGroup := by
  have ran : serverMachine.Run .start sampleGroupRequests (sampleRun sampleGroupRequests) :=
    Machine.run_of_valid .nil (by decide)
  have closed : ∀ request ∈ sampleGroupRequests, request.Closed sampleGroup := by decide +kernel
  exact (server_groups_isolated ran closed).1

end RepriseP2p.Udp
