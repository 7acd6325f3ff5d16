/-
This file proves when the server matches two clients and what a match leaves behind.
-/

import RepriseP2p.Udp.ServerHistory

namespace RepriseP2p.Udp

open History

/-- The answer carries an initiation message. -/
def Handled.Initiates (handled : Handled) : Prop :=
  ∃ dst peer addr sessionId isListener,
    ⟨dst, .initiateConnectionRequest peer addr sessionId isListener⟩ ∈ handled.replies

/-- The request initiates exactly when a listed peer waits for its sender, and then it connects the sender with
the first such peer. -/
def ConsentAt (history : List Handled) (bound : Nat) (handled : Handled) : Prop :=
  let request := handled.request
  let waits (peer : PublicKey) (index : Nat) (origin : Handled) : Prop :=
    Waiting history bound request.now peer request.senderPubkey index origin
  (handled.Initiates ↔ ∃ peer ∈ request.peerPubkeys, ∃ index origin, waits peer index origin) ∧
  ∀ before peer after index origin, request.peerPubkeys = before ++ peer :: after →
    (∀ earlier ∈ before, ¬ ∃ index origin, waits earlier index origin) → waits peer index origin →
    handled.replies =
      [⟨origin.request.addr, .initiateConnectionRequest request.senderPubkey request.addr request.sessionId false⟩,
        ⟨request.addr, .initiateConnectionRequest peer origin.request.addr origin.request.sessionId true⟩]

theorem consentAt_append {history extra : List Handled} {bound : Nat} {handled : Handled}
    (inside : bound ≤ history.length) :
    ConsentAt (history ++ extra) bound handled ↔ ConsentAt history bound handled := by
  simp only [ConsentAt, waiting_append inside]

/-- A new request that is not answered as lost meets the rule of consent. -/
theorem TableRefines.consentAt {run : ServerRun} (refines : TableRefines run) (request : AcceptedRequest)
    (ordered : run.clock ≤ request.now)
    (notLost : ¬ (⟨request, (run.state.handle request).2⟩ : Handled).AnsweredLost) :
    ConsentAt run.handled run.handled.length ⟨request, (run.state.handle request).2⟩ := by
  have cleaned := refines.cleanup ordered
  have waits (peer : PublicKey) (absent : (run.state.cleanup request.now).pending peer request.senderPubkey = none) :
      ¬ ∃ index origin, Waiting run.handled run.handled.length request.now peer request.senderPubkey index origin := by
    rintro ⟨index, origin, waiting⟩
    have slot := (cleaned peer request.senderPubkey _).mpr ⟨index, origin, waiting, rfl⟩
    rw [absent] at slot
    cases slot
  revert notLost
  generalize outcome : run.state.handle request = result
  have handled := run.state.handle_case request
  rw [outcome] at handled
  intro notLost
  cases handled with
  | lost activeSession stored same => exact absurd (lostReply_answeredLost request _ _) notLost
  | placed noSession absent =>
      have nobody : ¬ ∃ peer ∈ request.peerPubkeys, ∃ index origin,
          Waiting run.handled run.handled.length request.now peer request.senderPubkey index origin := by
        rintro ⟨peer, listed, waiting⟩
        exact waits peer (absent peer listed) waiting
      constructor
      · refine ⟨?_, fun someone => absurd someone nobody⟩
        rintro ⟨_, _, _, _, _, sent⟩
        cases sent
      · intro before peer after index origin listed _ waiting
        change request.peerPubkeys = _ at listed
        exact absurd ⟨peer, by simp [listed], index, origin, waiting⟩ nobody
  | matched before after peerPubkey found noSession listed absent present =>
      obtain ⟨index, origin, waiting, rfl⟩ := (cleaned peerPubkey request.senderPubkey found).mp present
      constructor
      · refine ⟨fun _ => ⟨peerPubkey, by simp [listed], index, origin, waiting⟩, fun _ => ?_⟩
        exact ⟨_, _, _, _, _, by rw [UdpState.matchReplies]; exact List.mem_cons_self⟩
      · intro firstBefore peer firstAfter firstIndex firstOrigin firstListed firstAbsent firstWaiting
        -- Both splits of the list stop at the first waiting peer.
        have samePeer : peer = peerPubkey := by
          have both : before ++ peerPubkey :: after = firstBefore ++ peer :: firstAfter := listed.symm.trans firstListed
          rcases List.append_eq_append_iff.mp both with ⟨middle, rfl, rest⟩ | ⟨middle, rfl, rest⟩
          · cases middle with
            | nil => exact (List.cons.inj rest).1.symm
            | cons head tail =>
                have headSame := (List.cons.inj rest).1
                exact absurd ⟨index, origin, waiting⟩ (firstAbsent peerPubkey (by simp [headSame]))
          · cases middle with
            | nil => exact (List.cons.inj rest).1
            | cons head tail =>
                have headSame := (List.cons.inj rest).1
                exact absurd ⟨firstIndex, firstOrigin, firstWaiting⟩ (waits peer (absent peer (by simp [headSame])))
        subst samePeer
        obtain ⟨rfl, rfl⟩ := firstWaiting.latest.unique waiting.latest
        simp only [UdpState.matchReplies, UdpState.pendingOf, waiting.latest.2.2.1.1]

/-- Every answered request of a reachable run meets the rule of consent. -/
theorem serverRun_consentAt {run : ServerRun} (reachable : serverMachine.Reachable run) (index : Nat)
    (handled : Handled) (found : run.handled[index]? = some handled) (notLost : ¬ handled.AnsweredLost) :
    ConsentAt run.handled index handled := by
  refine reachable.invariant (fun run => ∀ index handled, run.handled[index]? = some handled →
    ¬ handled.AnsweredLost → ConsentAt run.handled index handled) ?_ ?_ index handled found notLost
  · rintro run rfl index handled found
    simp [ServerRun.start] at found
  · intro run request reachable earlier ordered index handled found notLost
    change (run.handled ++ [⟨request, (run.state.handle request).2⟩])[index]? = some handled at found
    change ConsentAt (run.handled ++ [⟨request, (run.state.handle request).2⟩]) index handled
    rcases Nat.lt_trichotomy index run.handled.length with inside | rfl | outside
    · rw [List.getElem?_append_left inside] at found
      rw [consentAt_append (Nat.le_of_lt inside)]
      exact earlier index handled found notLost
    · simp only [List.getElem?_concat_length, Option.some.injEq] at found
      subst found
      rw [consentAt_append (Nat.le_refl _)]
      exact (serverRun_tableRefines reachable).consentAt request ordered notLost
    · rw [List.getElem?_eq_none (by simp; omega)] at found
      cases found

/-- An answer is one lost reply, the two messages of a match, or nothing. -/
def Handled.Shape (handled : Handled) : Prop :=
  (∃ peer addr, handled.replies = [⟨handled.request.addr, .lostConnectionRequest peer addr⟩]) ∨
    (∃ pending, handled.replies = UdpState.matchReplies handled.request pending) ∨ handled.replies = []

theorem UdpState.handle_shape (state : UdpState) (request : AcceptedRequest) :
    (⟨request, (state.handle request).2⟩ : Handled).Shape := by
  generalize outcome : state.handle request = result
  have handled := state.handle_case request
  rw [outcome] at handled
  cases handled with
  | lost activeSession stored same => exact .inl ⟨_, _, rfl⟩
  | matched before after peerPubkey pending notLost listed absent present => exact .inr (.inl ⟨pending, rfl⟩)
  | placed notLost absent => exact .inr (.inr rfl)

theorem Handled.Shape.not_lost {handled : Handled} (shape : handled.Shape) {peer : PublicKey}
    (matched : handled.MatchedWith peer) : ¬ handled.AnsweredLost := by
  obtain ⟨addr, sessionId, toNew⟩ := matched
  rintro ⟨dst, lostPeer, lostAddr, lost⟩
  rcases shape with ⟨_, _, replies⟩ | ⟨pending, replies⟩ | replies
  · rw [Handled.ToNew, replies] at toNew
    simp at toNew
  · rw [replies] at lost
    simp [UdpState.matchReplies] at lost
  · rw [Handled.ToNew, replies] at toNew
    cases toNew

theorem serverRun_shape {run : ServerRun} (reachable : serverMachine.Reachable run) (handled : Handled)
    (member : handled ∈ run.handled) : handled.Shape := by
  refine reachable.invariant (fun run => ∀ handled ∈ run.handled, handled.Shape) ?_ ?_ handled member
  · rintro run rfl handled member
    cases member
  · intro run request _ earlier _ handled member
    rcases List.mem_append.mp member with old | new
    · exact earlier handled old
    · rw [List.mem_singleton.mp new]
      exact run.state.handle_shape request

/-- The match at `index` consumes the entry that the request at `origin` placed for `target`. -/
def Consumes (history : List Handled) (index origin : Nat) (target : PublicKey) : Prop :=
  ∃ handled peer item, history[index]? = some handled ∧ handled.request.senderPubkey = target ∧
    handled.MatchedWith peer ∧ LatestBefore history (OwnRequest peer) index origin item

/-- An initiation connects the sender with a listed peer that waits for it. -/
theorem ConsentAt.partner {history : List Handled} {bound : Nat} {handled : Handled}
    (consent : ConsentAt history bound handled) (initiates : handled.Initiates) :
    ∃ peer ∈ handled.request.peerPubkeys, ∃ index origin,
      Waiting history bound handled.request.now peer handled.request.senderPubkey index origin ∧
      handled.replies = UdpState.matchReplies handled.request (UdpState.pendingOf origin.request) := by
  obtain ⟨listed, member, waits⟩ := consent.1.mp initiates
  classical
  rcases exists_first_or_none
      (fun peer => if ∃ index origin, Waiting history bound handled.request.now peer
        handled.request.senderPubkey index origin then some () else none) handled.request.peerPubkeys with
    nobody | ⟨before, first, after, _, split, absent, present⟩
  · have hidden := nobody listed member
    rw [if_pos waits] at hidden
    cases hidden
  · have someone : ∃ index origin, Waiting history bound handled.request.now first
        handled.request.senderPubkey index origin := by
      by_contra nobody
      rw [if_neg nobody] at present
      cases present
    obtain ⟨index, origin, waiting⟩ := someone
    refine ⟨first, by simp [split], index, origin, waiting, ?_⟩
    rw [consent.2 before first after index origin split (fun earlier early someone => ?_) waiting,
      UdpState.matchReplies, UdpState.pendingOf, waiting.latest.2.2.1.1]
    have hidden := absent earlier early
    rw [if_pos someone] at hidden
    cases hidden

/-- A match rests on an entry that no earlier match has consumed. -/
theorem ConsentAt.waiting {history : List Handled} {bound : Nat} {handled : Handled}
    (consent : ConsentAt history bound handled) {peer : PublicKey} (matched : handled.MatchedWith peer) :
    ∃ index origin, Waiting history bound handled.request.now peer handled.request.senderPubkey index origin := by
  obtain ⟨addr, sessionId, toNew⟩ := matched
  obtain ⟨first, _, index, origin, waiting, replies⟩ := consent.partner ⟨_, _, _, _, _, toNew⟩
  rw [Handled.ToNew, replies] at toNew
  have same := ((matchReplies_toNew handled.request _ peer addr sessionId).mp toNew).1
  rw [UdpState.pendingOf, waiting.latest.2.2.1.1] at same
  exact ⟨index, origin, same ▸ waiting⟩

/-- Whoever is told about a peer has listed it, and the peer has listed whoever is told. -/
theorem initiation_origin {run : ServerRun} (reachable : serverMachine.Reachable run) {handled : Handled}
    (member : handled ∈ run.handled) {dst addr : SocketAddrV4} {peer : PublicKey} {sessionId : UInt32}
    {isListener : Bool} (sent : ⟨dst, .initiateConnectionRequest peer addr sessionId isListener⟩ ∈ handled.replies) :
    ∃ told ∈ run.handled, ∃ other ∈ run.handled, told.request.addr = dst ∧ peer ∈ told.request.peerPubkeys ∧
      other.request.senderPubkey = peer ∧ other.request.addr = addr ∧ other.request.sessionId = sessionId ∧
      told.request.senderPubkey ∈ other.request.peerPubkeys := by
  obtain ⟨index, found⟩ := List.mem_iff_getElem?.mp member
  have notLost : ¬ handled.AnsweredLost := by
    rintro ⟨_, _, _, lost⟩
    rcases serverRun_shape reachable handled member with ⟨_, _, replies⟩ | ⟨pending, replies⟩ | replies
    · rw [replies] at sent
      simp at sent
    · rw [replies] at lost
      simp [UdpState.matchReplies] at lost
    · rw [replies] at sent
      cases sent
  obtain ⟨partner, listed, place, origin, waiting, replies⟩ :=
    (serverRun_consentAt reachable index handled found notLost).partner ⟨_, _, _, _, _, sent⟩
  have waited : origin ∈ run.handled := List.mem_of_getElem? waiting.latest.2.1
  have partnerKey : origin.request.senderPubkey = partner := waiting.latest.2.2.1.1
  rw [replies] at sent
  simp only [UdpState.matchReplies, UdpState.pendingOf, List.mem_cons, Datagram.mk.injEq,
    FromServerMessage.initiateConnectionRequest.injEq, List.not_mem_nil, or_false] at sent
  rcases sent with ⟨rfl, rfl, rfl, rfl, rfl⟩ | ⟨rfl, rfl, rfl, rfl, rfl⟩
  · exact ⟨origin, waited, handled, member, rfl, waiting.listed, rfl, rfl, rfl, partnerKey ▸ listed⟩
  · exact ⟨handled, member, origin, waited, rfl, partnerKey ▸ listed, rfl, rfl, rfl, waiting.listed⟩

/-- A match excludes an earlier match on the same entry. -/
theorem consumes_not_before {run : ServerRun} (reachable : serverMachine.Reachable run) {first second origin : Nat}
    {target : PublicKey} (earlier : Consumes run.handled first origin target)
    (again : Consumes run.handled second origin target) : ¬ first < second := by
  intro before
  obtain ⟨firstHandled, firstPeer, firstItem, firstFound, firstSender, firstMatched, firstLatest⟩ := earlier
  obtain ⟨secondHandled, secondPeer, secondItem, secondFound, secondSender, secondMatched, secondLatest⟩ := again
  have sameItem : firstItem = secondItem := by
    have found := firstLatest.2.1
    rw [secondLatest.2.1] at found
    exact (Option.some.inj found).symm
  have samePeer : firstPeer = secondPeer := by
    rw [← firstLatest.2.2.1.1, ← secondLatest.2.2.1.1, sameItem]
  have notLost := (serverRun_shape reachable secondHandled (List.mem_of_getElem? secondFound)).not_lost secondMatched
  have consent := serverRun_consentAt reachable second secondHandled secondFound notLost
  obtain ⟨index, item, waiting⟩ := consent.waiting secondMatched
  obtain ⟨rfl, rfl⟩ := waiting.latest.unique secondLatest
  refine waiting.unconsumed first firstHandled firstLatest.1 before firstFound ⟨?_, ?_⟩
  · rw [firstSender, secondSender]
  · rw [← samePeer]
    exact firstMatched

/-- The server initiates exactly on mutual consent, and each pending entry serves at most one match. -/
theorem server_mutualConsent {run : ServerRun} (reachable : serverMachine.Reachable run) :
    (∀ index handled, run.handled[index]? = some handled → ¬ handled.AnsweredLost →
      ConsentAt run.handled index handled) ∧
    ∀ first second origin target, Consumes run.handled first origin target →
      Consumes run.handled second origin target → first = second := by
  refine ⟨serverRun_consentAt reachable, ?_⟩
  intro first second origin target earlier again
  rcases Nat.lt_trichotomy first second with before | same | after
  · exact absurd before (consumes_not_before reachable earlier again)
  · exact same
  · exact absurd after (consumes_not_before reachable again earlier)

/-- A request that lists one or two peers. -/
def sampleRequest (sender : UInt8) (sessionId : UInt32) (peer : UInt8) (more : Option UInt8) (secs : Nat) :
    AcceptedRequest where
  senderPubkey := sampleKey sender
  addr := sampleAddr sender
  sessionId := sessionId
  peerPubkeys := sampleKey peer :: (more.map sampleKey).toList
  listed := by cases more <;> simp
  now := Duration.fromSecs secs

def sampleRun (requests : List AcceptedRequest) : ServerRun := requests.foldl serverMachine.next .start

theorem sampleRun_reachable (requests : List AcceptedRequest) (checked : serverMachine.valid .start requests = true) :
    serverMachine.Reachable (sampleRun requests) :=
  .of_valid rfl checked

/-- Client 1 waits for the clients 2 and 3, and client 2 answers one second later. -/
theorem server_mutualConsent_sample :
    ConsentAt (sampleRun [sampleRequest 1 11 2 (some 3) 0, sampleRequest 2 12 1 none 1]).handled 1
      ⟨sampleRequest 2 12 1 none 1,
        UdpState.matchReplies (sampleRequest 2 12 1 none 1)
          (UdpState.pendingOf (sampleRequest 1 11 2 (some 3) 0))⟩ :=
  (server_mutualConsent (sampleRun_reachable _ (by decide))).1 1 _ (by decide +kernel) (matchReplies_not_lost _ _)

/-- No pending entry of either client is left. -/
def OneShot (state : UdpState) (sender peer : PublicKey) : Prop :=
  ∀ requester target pending, state.pending requester target = some pending →
    pending.requesterPubkey ≠ sender ∧ pending.requesterPubkey ≠ peer

/-- A match leaves no slot of either client exactly when the matched peer had no other fresh entry. -/
theorem server_oneShot_iff {run : ServerRun} (reachable : serverMachine.Reachable run) (request : AcceptedRequest)
    (ordered : serverMachine.allowed run request) (peer : PublicKey) (different : peer ≠ request.senderPubkey)
    (matched : (⟨request, (run.state.handle request).2⟩ : Handled).MatchedWith peer) :
    OneShot (run.state.handle request).1 request.senderPubkey peer ↔
      ∀ target pending, run.state.pending peer target = some pending → Fresh request.now pending →
        target = request.senderPubkey := by
  have cleaned := (serverRun_tableRefines reachable).cleanup ordered
  revert matched
  generalize outcome : run.state.handle request = result
  have handled := run.state.handle_case request
  rw [outcome] at handled
  rintro ⟨addr, sessionId, toNew⟩
  cases handled with
  | lost activeSession stored same => exact absurd toNew (lostReply_not_toNew request _ _ _ _ _)
  | placed notLost absent => exact absurd toNew (noReply_not_toNew request _ _ _)
  | matched before after peerPubkey found notLost listed absent present =>
      have partner := ((cleaned peerPubkey request.senderPubkey found).mp present).requesterPubkey
      have samePeer : peerPubkey = peer := partner.symm.trans ((matchReplies_toNew request found _ _ _).mp toNew).1
      subst samePeer
      constructor
      · intro oneShot target pending there fresh
        by_contra elsewhere
        have kept := (run.state.cleanup_pending_eq_some request.now peerPubkey target pending).mpr ⟨there, fresh⟩
        have left : ((run.state.cleanup request.now).consumed request peerPubkey found).pending peerPubkey target =
            some pending := by
          rw [UdpState.consumed_pending, if_neg (by simp [different, elsewhere]), kept]
        exact (oneShot peerPubkey target pending left).2 ((cleaned peerPubkey target pending).mp kept).requesterPubkey
      · intro alone requester target pending left
        rw [UdpState.consumed_pending] at left
        split_ifs at left with gone
        have requesterKey := ((cleaned requester target pending).mp left).requesterPubkey
        obtain ⟨there, fresh⟩ := (run.state.cleanup_pending_eq_some request.now requester target pending).mp left
        refine ⟨fun sender => gone (.inl (requesterKey.symm.trans sender)), fun partnerKey => ?_⟩
        have samePeer : requester = peerPubkey := requesterKey.symm.trans partnerKey
        subst samePeer
        exact gone (.inr ⟨rfl, alone target pending there fresh⟩)

/-- A slot that names only the new requester is used up. -/
theorem server_oneShot_sample :
    OneShot ((sampleRun [sampleRequest 1 11 2 none 0]).state.handle (sampleRequest 2 12 1 none 1)).1
      (sampleKey 2) (sampleKey 1) := by
  have reachable := sampleRun_reachable [sampleRequest 1 11 2 none 0] (by decide)
  refine (server_oneShot_iff reachable (sampleRequest 2 12 1 none 1) (by decide) (sampleKey 1) (by decide)
    ⟨sampleAddr 1, 11, by unfold Handled.ToNew; decide +kernel⟩).mpr ?_
  intro target pending there _
  obtain ⟨index, origin, waiting, _⟩ := (serverRun_tableRefines reachable _ _ _).mp there
  have only : index = 0 := Nat.lt_one_iff.mp waiting.latest.1
  have found := waiting.latest.2.1
  rw [only, show (sampleRun [sampleRequest 1 11 2 none 0]).handled[0]? = some ⟨sampleRequest 1 11 2 none 0, []⟩ by
    decide +kernel] at found
  cases found
  exact List.mem_singleton.mp waiting.listed

/-- Client 1 lists the clients 2 and 3. The match with client 2 leaves its entry for client 3. -/
theorem server_oneShot_fails :
    ¬ ∀ run request peer, serverMachine.Reachable run → serverMachine.allowed run request →
      peer ≠ request.senderPubkey → (⟨request, (run.state.handle request).2⟩ : Handled).MatchedWith peer →
      OneShot (run.state.handle request).1 request.senderPubkey peer := by
  intro claim
  have left := claim (sampleRun [sampleRequest 1 11 2 (some 3) 0]) (sampleRequest 2 12 1 none 1) (sampleKey 1)
    (sampleRun_reachable _ (by decide)) (by decide) (by decide)
    ⟨sampleAddr 1, 11, by unfold Handled.ToNew; decide +kernel⟩ (sampleKey 1) (sampleKey 3)
    (UdpState.pendingOf (sampleRequest 1 11 2 (some 3) 0)) (by decide +kernel)
  exact left.2 rfl

end RepriseP2p.Udp
