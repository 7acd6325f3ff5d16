/-
This file proves two laws of the server's tables: no two clients wait for each other, and requests of clients
that do not name each other commute.
-/

import RepriseP2p.Udp.ServerMatching

namespace RepriseP2p.Udp

open NestedMap

/-- No two different clients wait for each other. -/
def UdpState.NoMissedRendezvous (state : UdpState) : Prop :=
  ∀ first second, first ≠ second → state.pending first second ≠ none → state.pending second first = none

/-- The server's tables after these requests, oldest first. -/
def UdpState.after (requests : List AcceptedRequest) : UdpState :=
  requests.foldl (fun state request => (state.handle request).1) .new

/-- An entry that the clean-up keeps was there before. -/
theorem UdpState.pending_of_cleanup {state : UdpState} {now : Instant} {requester target : PublicKey}
    (kept : (state.cleanup now).pending requester target ≠ none) : state.pending requester target ≠ none := by
  obtain ⟨pending, found⟩ := Option.ne_none_iff_exists'.mp kept
  rw [((state.cleanup_pending_eq_some _ _ _ _).mp found).1]
  simp

/-- Dropping entries keeps the law. -/
theorem UdpState.NoMissedRendezvous.of_subset {state other : UdpState} (law : state.NoMissedRendezvous)
    (subset : ∀ requester target, other.pending requester target ≠ none → state.pending requester target ≠ none) :
    other.NoMissedRendezvous := by
  intro first second differ there
  have missing := law first second differ (subset first second there)
  by_contra present
  exact subset second first present missing

/-- One request keeps the law. -/
theorem UdpState.NoMissedRendezvous.handle {state : UdpState} (law : state.NoMissedRendezvous)
    (request : AcceptedRequest) : (state.handle request).1.NoMissedRendezvous := by
  have cleaned : (state.cleanup request.now).NoMissedRendezvous :=
    law.of_subset fun requester target kept => pending_of_cleanup kept
  generalize outcome : state.handle request = result
  have handled := state.handle_case request
  rw [outcome] at handled
  cases handled with
  | lost activeSession stored same => exact cleaned
  | matched before after peerPubkey pending notLost listed absent present =>
      apply cleaned.of_subset
      intro requester target kept
      rw [consumed_pending] at kept
      split_ifs at kept
      · exact absurd rfl kept
      · exact kept
  | placed notLost absent =>
      intro first second differ there
      rw [placed_pending] at there ⊢
      by_cases own : first = request.senderPubkey
      · -- The new slot names only peers that do not wait for its owner.
        rw [if_pos own] at there
        split_ifs at there with named
        · rw [if_neg fun equal => differ (own.trans equal.symm), own]
          exact absent second named
        · exact absurd rfl there
      · rw [if_neg own] at there
        split_ifs with peer named
        · rw [← peer] at absent
          exact absurd (absent first named) there
        · rfl
        · exact cleaned first second differ there

/-- Whatever requests the server has handled, no two clients' slots name each other. -/
theorem server_noMissedRendezvous (requests : List AcceptedRequest) : (UdpState.after requests).NoMissedRendezvous := by
  induction requests using List.reverseRecOn with
  | nil =>
      intro first second _ _
      simp [UdpState.after, UdpState.new, UdpState.pending]
  | append_singleton requests request ih =>
      rw [UdpState.after, List.foldl_append]
      exact UdpState.NoMissedRendezvous.handle ih request

/-- What the cleaned tables decide about a request. -/
inductive Verdict where
  | lost (activeSession : ActiveSession)
  | matched (peerPubkey : PublicKey) (pending : PendingRequest)
  | placed

/-- The first listed peer that has an entry for the sender, with that entry. -/
def UdpState.partner (state : UdpState) (request : AcceptedRequest) : Option (PublicKey × PendingRequest) :=
  request.peerPubkeys.findSome? fun peerPubkey =>
    (state.pending peerPubkey request.senderPubkey).map fun pending => (peerPubkey, pending)

def UdpState.verdict (state : UdpState) (request : AcceptedRequest) : Verdict :=
  match state.lastSessionIds[request.senderPubkey]?.filter fun active => active.sessionId = request.sessionId with
  | some activeSession => .lost activeSession
  | none =>
      match state.partner request with
      | some (peerPubkey, pending) => .matched peerPubkey pending
      | none => .placed

def Verdict.apply (request : AcceptedRequest) (state : UdpState) : Verdict → UdpState
  | .lost _ => state
  | .matched peerPubkey pending => state.consumed request peerPubkey pending
  | .placed => state.placed request

def Verdict.replies (request : AcceptedRequest) : Verdict → List Datagram
  | .lost activeSession =>
      [⟨request.addr, .lostConnectionRequest activeSession.remotePeer activeSession.remoteAddr⟩]
  | .matched _ pending => UdpState.matchReplies request pending
  | .placed => []

/-- A search depends only on the values at the listed items. -/
theorem findSome?_congr {α β : Type} {find other : α → Option β} {items : List α}
    (same : ∀ item ∈ items, find item = other item) : items.findSome? find = items.findSome? other := by
  induction items with
  | nil => rfl
  | cons head tail ih =>
      rw [List.findSome?_cons, List.findSome?_cons, same head (by simp), ih fun item member => same item (by simp [member])]

theorem UdpState.partner_none {state : UdpState} {request : AcceptedRequest}
    (absent : ∀ peerPubkey ∈ request.peerPubkeys, state.pending peerPubkey request.senderPubkey = none) :
    state.partner request = none := by
  rw [partner, List.findSome?_eq_none_iff]
  intro peerPubkey listed
  rw [absent peerPubkey listed, Option.map_none]

theorem UdpState.partner_first {state : UdpState} {request : AcceptedRequest} {before after : List PublicKey}
    {peerPubkey : PublicKey} {pending : PendingRequest} (listed : request.peerPubkeys = before ++ peerPubkey :: after)
    (absent : ∀ earlier ∈ before, state.pending earlier request.senderPubkey = none)
    (present : state.pending peerPubkey request.senderPubkey = some pending) :
    state.partner request = some (peerPubkey, pending) := by
  rw [partner, List.findSome?_eq_some_iff]
  refine ⟨before, peerPubkey, after, listed, ?_, ?_⟩
  · rw [present, Option.map_some]
  · intro earlier member
    rw [absent earlier member, Option.map_none]

theorem UdpState.verdict_lost {state : UdpState} {request : AcceptedRequest} {activeSession : ActiveSession}
    (stored : state.lastSessionIds[request.senderPubkey]? = some activeSession)
    (same : activeSession.sessionId = request.sessionId) : state.verdict request = .lost activeSession := by
  rw [verdict, stored, Option.filter_some, if_pos (decide_eq_true same)]

theorem UdpState.verdict_of_not_lost {state : UdpState} {request : AcceptedRequest} (notLost : ¬ state.lost request) :
    state.verdict request =
      match state.partner request with
      | some (peerPubkey, pending) => .matched peerPubkey pending
      | none => .placed := by
  have none : (state.lastSessionIds[request.senderPubkey]?.filter fun active =>
      active.sessionId = request.sessionId) = none := by
    rw [Option.filter_eq_none_iff]
    intro activeSession stored same
    exact notLost ⟨activeSession, stored, by simpa using same⟩
  rw [verdict, none]

/-- The handling cleans up, decides, and acts on the decision. -/
theorem UdpState.handle_eq (state : UdpState) (request : AcceptedRequest) :
    let verdict := (state.cleanup request.now).verdict request
    state.handle request = (verdict.apply request (state.cleanup request.now), verdict.replies request) := by
  generalize outcome : state.handle request = result
  have handled := state.handle_case request
  rw [outcome] at handled
  cases handled with
  | lost activeSession stored same =>
      have decision : (state.cleanup request.now).verdict request = .lost activeSession := by
        apply verdict_lost
        · rw [cleanup_lastSessionIds, stored]
        · exact same
      rw [decision]
      rfl
  | matched before after peerPubkey pending notLost listed absent present =>
      have decision : (state.cleanup request.now).verdict request = .matched peerPubkey pending := by
        rw [@verdict_of_not_lost (state.cleanup request.now) request notLost, partner_first listed absent present]
      rw [decision]
      rfl
  | placed notLost absent =>
      have decision : (state.cleanup request.now).verdict request = .placed := by
        rw [@verdict_of_not_lost (state.cleanup request.now) request notLost, partner_none absent]
      rw [decision]
      rfl

/-- No row is empty, and every entry is fresh. -/
structure UdpState.Settled (state : UdpState) (now : Instant) : Prop where
  noEmptyRow : NoEmptyRow state.requests
  fresh : ∀ requester target pending, state.pending requester target = some pending → Fresh now pending

theorem UdpState.cleanup_settled (state : UdpState) (now : Instant) : (state.cleanup now).Settled now where
  noEmptyRow := noEmptyRow_retain _ _
  fresh _ _ _ found := ((state.cleanup_pending_eq_some _ _ _ _).mp found).2

/-- Settled tables with the same entries and sessions are equal. -/
theorem UdpState.Settled.ext {state other : UdpState} {now : Instant} (settled : state.Settled now)
    (settledOther : other.Settled now)
    (samePending : ∀ requester target, state.pending requester target = other.pending requester target)
    (sameSessions : state.lastSessionIds = other.lastSessionIds) : state = other := by
  obtain ⟨requests, lastSessionIds⟩ := state
  obtain ⟨otherRequests, otherSessions⟩ := other
  obtain rfl : requests = otherRequests := settled.noEmptyRow.ext settledOther.noEmptyRow samePending
  obtain rfl : lastSessionIds = otherSessions := sameSessions
  rfl

/-- Cleaning up a settled table changes nothing. -/
theorem UdpState.Settled.cleanup_eq {state : UdpState} {now : Instant} (settled : state.Settled now) :
    state.cleanup now = state := by
  apply (state.cleanup_settled now).ext settled
  · intro requester target
    rw [cleanup_pending]
    cases found : state.pending requester target with
    | none => rfl
    | some pending => rw [Option.filter_some, if_pos (decide_eq_true (settled.fresh _ _ _ found))]
  · exact state.cleanup_lastSessionIds now

/-- Acting on a decision keeps the tables settled. -/
theorem UdpState.Settled.apply {state : UdpState} {request : AcceptedRequest} {now : Instant}
    (settled : state.Settled now) (clock : request.now = now) (verdict : Verdict) :
    (verdict.apply request state).Settled now := by
  subst clock
  cases verdict with
  | lost activeSession => exact settled
  | matched peerPubkey pending =>
      constructor
      · exact (settled.noEmptyRow.dropEmpty_removeEntry peerPubkey request.senderPubkey).erase request.senderPubkey
      · intro requester target found there
        rw [Verdict.apply, consumed_pending] at there
        split_ifs at there
        exact settled.fresh requester target found there
  | placed =>
      constructor
      · apply settled.noEmptyRow.insert
        apply isEmpty_constantRow
        have listed := request.listed.1
        intro empty
        rw [empty] at listed
        simp at listed
      · intro requester target found there
        rw [Verdict.apply, placed_pending] at there
        split_ifs at there
        · cases there
          simp [Fresh, Instant.elapsed, pendingOf, Duration.fromSecs, requestTimeoutS]
        · exact settled.fresh requester target found there

/-- The decision about a request does not see what another client's request did, unless it lists that client. -/
theorem UdpState.verdict_apply (state : UdpState) {first second : AcceptedRequest} (verdict : Verdict)
    (differ : first.senderPubkey ≠ second.senderPubkey) (unlisted : first.senderPubkey ∉ second.peerPubkeys) :
    (verdict.apply first state).verdict second = state.verdict second := by
  have sessions : (verdict.apply first state).lastSessionIds[second.senderPubkey]? =
      state.lastSessionIds[second.senderPubkey]? := by
    cases verdict with
    | lost activeSession => rfl
    | matched peerPubkey pending =>
        rw [Verdict.apply, consumed, Std.ExtTreeMap.getElem?_insert,
          if_neg fun equal => differ (Std.LawfulEqCmp.compare_eq_iff_eq.mp equal)]
    | placed => rfl
  have pending (peerPubkey : PublicKey) (listed : peerPubkey ∈ second.peerPubkeys) :
      (verdict.apply first state).pending peerPubkey second.senderPubkey =
        state.pending peerPubkey second.senderPubkey := by
    have other : peerPubkey ≠ first.senderPubkey := fun equal => unlisted (equal ▸ listed)
    cases verdict with
    | lost activeSession => rfl
    | matched partner found => simp [Verdict.apply, other, differ.symm]
    | placed => simp [Verdict.apply, other]
  have partner : (verdict.apply first state).partner second = state.partner second := by
    apply findSome?_congr
    intro peerPubkey listed
    rw [pending peerPubkey listed]
  rw [UdpState.verdict, UdpState.verdict, sessions, partner]

/-- The decision takes no entry of this client. -/
def Verdict.Avoids (client : PublicKey) : Verdict → Prop
  | .matched peerPubkey _ => peerPubkey ≠ client
  | _ => True

/-- A client that the request does not list keeps its entries. -/
theorem UdpState.verdict_avoids (state : UdpState) {request : AcceptedRequest} {client : PublicKey}
    (unlisted : client ∉ request.peerPubkeys) : (state.verdict request).Avoids client := by
  rw [verdict]
  split
  · trivial
  · split
    · rename_i peerPubkey pending found
      obtain ⟨listedPeer, listed, here⟩ := List.exists_of_findSome?_eq_some found
      obtain ⟨_, _, same⟩ := Option.map_eq_some_iff.mp here
      cases same
      exact fun equal => unlisted (equal ▸ listed)
    · trivial

/-- Acting on a decision changes the row of the sender, and at most the sender's entry in the row of a matched peer. -/
theorem UdpState.apply_pending_of_ne {state : UdpState} {request : AcceptedRequest} {requester target : PublicKey}
    {verdict : Verdict} (other : requester ≠ request.senderPubkey)
    (kept : target ≠ request.senderPubkey ∨ verdict.Avoids requester) :
    (verdict.apply request state).pending requester target = state.pending requester target := by
  cases verdict with
  | lost activeSession => rfl
  | placed => rw [Verdict.apply, placed_pending, if_neg other]
  | matched peerPubkey pending =>
      rw [Verdict.apply, consumed_pending, if_neg]
      rintro (own | ⟨equal, same⟩)
      · exact other own
      · obtain different | avoids := kept
        · exact different same
        · exact avoids equal.symm

/-- What a decision does to an entry depends only on that entry. -/
theorem UdpState.apply_pending_congr {state other : UdpState} {request : AcceptedRequest}
    {requester target : PublicKey} (verdict : Verdict)
    (same : state.pending requester target = other.pending requester target) :
    (verdict.apply request state).pending requester target =
      (verdict.apply request other).pending requester target := by
  cases verdict with
  | lost activeSession => exact same
  | placed => rw [Verdict.apply, Verdict.apply, placed_pending, placed_pending, same]
  | matched peerPubkey pending => rw [Verdict.apply, Verdict.apply, consumed_pending, consumed_pending, same]

/-- Two decisions act on different entries and sessions. -/
theorem UdpState.apply_comm {state : UdpState} {first second : AcceptedRequest} {now : Instant}
    (settled : state.Settled now) (firstClock : first.now = now) (secondClock : second.now = now)
    (differ : first.senderPubkey ≠ second.senderPubkey) {firstVerdict secondVerdict : Verdict}
    (firstAvoids : firstVerdict.Avoids second.senderPubkey)
    (secondAvoids : secondVerdict.Avoids first.senderPubkey) :
    secondVerdict.apply second (firstVerdict.apply first state) =
      firstVerdict.apply first (secondVerdict.apply second state) := by
  apply ((settled.apply firstClock firstVerdict).apply secondClock secondVerdict).ext
    ((settled.apply secondClock secondVerdict).apply firstClock firstVerdict)
  · intro requester target
    -- At every entry one of the two decisions changes nothing.
    have split : (requester ≠ first.senderPubkey ∧ (target ≠ first.senderPubkey ∨ firstVerdict.Avoids requester)) ∨
        (requester ≠ second.senderPubkey ∧ (target ≠ second.senderPubkey ∨ secondVerdict.Avoids requester)) := by
      by_cases firstRow : requester = first.senderPubkey
      · exact .inr ⟨fun equal => differ (firstRow.symm.trans equal), .inr (firstRow ▸ secondAvoids)⟩
      · by_cases secondRow : requester = second.senderPubkey
        · exact .inl ⟨firstRow, .inr (secondRow ▸ firstAvoids)⟩
        · by_cases firstTarget : target = first.senderPubkey
          · exact .inr ⟨secondRow, .inl fun equal => differ (firstTarget.symm.trans equal)⟩
          · exact .inl ⟨firstRow, .inl firstTarget⟩
    obtain ⟨other, kept⟩ | ⟨other, kept⟩ := split
    · rw [apply_pending_of_ne other kept]
      exact apply_pending_congr secondVerdict (apply_pending_of_ne other kept)
    · rw [apply_pending_of_ne other kept]
      exact (apply_pending_congr firstVerdict (apply_pending_of_ne other kept)).symm
  · cases firstVerdict with
    | lost firstSession => rfl
    | placed =>
        -- A placed request leaves the sessions alone. Unfolding says so without comparing the slots.
        cases secondVerdict with
        | lost secondSession => rfl
        | placed => simp only [Verdict.apply, placed]
        | matched secondPeer secondPending => simp only [Verdict.apply, placed, consumed]
    | matched firstPeer firstPending =>
        cases secondVerdict with
        | lost secondSession => rfl
        | placed => rfl
        | matched secondPeer secondPending =>
            apply Std.ExtTreeMap.ext_getElem?
            intro client
            simp only [Verdict.apply, consumed, Std.ExtTreeMap.getElem?_insert, Std.LawfulEqCmp.compare_eq_iff_eq]
            by_cases isFirst : first.senderPubkey = client
            · rw [if_pos isFirst, if_pos isFirst, if_neg fun equal => differ (isFirst.trans equal.symm)]
            · rw [if_neg isFirst, if_neg isFirst]

/-- At one clock value, requests of two clients that do not name each other end in the same tables and get the
same answers in either order. -/
theorem server_independent_commute (state : UdpState) (first second : AcceptedRequest)
    (clock : first.now = second.now) (differ : first.senderPubkey ≠ second.senderPubkey)
    (firstUnlisted : second.senderPubkey ∉ first.peerPubkeys)
    (secondUnlisted : first.senderPubkey ∉ second.peerPubkeys) :
    ((state.handle first).1.handle second).1 = ((state.handle second).1.handle first).1 ∧
      ((state.handle first).1.handle second).2 = (state.handle second).2 ∧
      ((state.handle second).1.handle first).2 = (state.handle first).2 := by
  have settled := state.cleanup_settled first.now
  have firstSettled (verdict : Verdict) := settled.apply rfl verdict
  have secondSettled (verdict : Verdict) := settled.apply clock.symm verdict
  have firstAvoids := (state.cleanup first.now).verdict_avoids firstUnlisted
  have secondAvoids := (state.cleanup first.now).verdict_avoids secondUnlisted
  simp only [UdpState.handle_eq, ← clock, (firstSettled _).cleanup_eq, (secondSettled _).cleanup_eq,
    UdpState.verdict_apply _ _ differ secondUnlisted, UdpState.verdict_apply _ _ differ.symm firstUnlisted]
  exact ⟨UdpState.apply_comm settled rfl clock.symm differ firstAvoids secondAvoids, trivial, trivial⟩

/-- The clients 1 and 2 take the two entries of the slot of client 3. -/
theorem server_independent_commute_sample :
    let state := UdpState.after [sampleRequest 3 13 1 (some 2) 0]
    let first := sampleRequest 1 11 3 none 1
    let second := sampleRequest 2 12 3 none 1
    ((state.handle first).1.handle second).1 = ((state.handle second).1.handle first).1 ∧
      ((state.handle first).1.handle second).2 = (state.handle second).2 ∧
      ((state.handle second).1.handle first).2 = (state.handle first).2 := by
  intro state first second
  have differ : sampleKey 1 ≠ sampleKey 2 := by decide
  have firstUnlisted : sampleKey 2 ∉ (sampleRequest 1 11 3 none 1).peerPubkeys := by decide
  have secondUnlisted : sampleKey 1 ∉ (sampleRequest 2 12 3 none 1).peerPubkeys := by decide
  exact server_independent_commute state first second rfl differ firstUnlisted secondUnlisted

end RepriseP2p.Udp
