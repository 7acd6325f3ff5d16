/-
This file relates the stored sessions of the server to its match history.
-/

import RepriseP2p.Udp.ServerMatching

namespace RepriseP2p.Udp

open History

/-- In this match `client` used `sessionId`, and its partner was `peer` at `addr`. -/
def Handled.Role (handled : Handled) (client : PublicKey) (sessionId : UInt32) (peer : PublicKey)
    (addr : SocketAddrV4) : Prop :=
  (handled.request.senderPubkey = client ∧ handled.request.sessionId = sessionId ∧
      ∃ peerSession, handled.ToNew peer addr peerSession) ∨
    (handled.request.senderPubkey = peer ∧ handled.request.addr = addr ∧
      ∃ clientAddr, handled.ToNew client clientAddr sessionId)

def Handled.TookPart (client : PublicKey) (handled : Handled) : Prop :=
  ∃ sessionId peer addr, handled.Role client sessionId peer addr

/-- The request of this client completed a match. -/
def Handled.CompletedBy (client : PublicKey) (handled : Handled) : Prop :=
  handled.request.senderPubkey = client ∧ ∃ peer, handled.MatchedWith peer

/-- The client used this session in its latest match, with this partner. -/
def UsedInLatest (history : List Handled) (client : PublicKey) (sessionId : UInt32) (peer : PublicKey)
    (addr : SocketAddrV4) : Prop :=
  ∃ index handled, LatestBefore history (Handled.TookPart client) history.length index handled ∧
    handled.Role client sessionId peer addr

/-- The partner used this session in the latest match that a request of the client completed. -/
def PartnerInLatest (history : List Handled) (client : PublicKey) (sessionId : UInt32) (peer : PublicKey)
    (addr : SocketAddrV4) : Prop :=
  ∃ index handled, LatestBefore history (Handled.CompletedBy client) history.length index handled ∧
    handled.ToNew peer addr sessionId

/-- The session table holds, for each client, the partner's session of the latest match it completed. -/
def SessionsRefine (run : ServerRun) : Prop :=
  ∀ client sessionId peer addr, run.state.lastSessionIds[client]? = some ⟨sessionId, addr, peer⟩ ↔
    PartnerInLatest run.handled client sessionId peer addr

/-- A request that completes no match keeps the stored partner. -/
theorem partnerInLatest_snoc_of_not {history : List Handled} {last : Handled} {client : PublicKey}
    (incomplete : ¬ last.CompletedBy client) (sessionId : UInt32) (peer : PublicKey) (addr : SocketAddrV4) :
    PartnerInLatest (history ++ [last]) client sessionId peer addr ↔
      PartnerInLatest history client sessionId peer addr := by
  simp only [PartnerInLatest, List.length_append, List.length_singleton, latestBefore_snoc_of_not incomplete]

theorem partnerInLatest_snoc_of {history : List Handled} {last : Handled} {client : PublicKey}
    (complete : last.CompletedBy client) (sessionId : UInt32) (peer : PublicKey) (addr : SocketAddrV4) :
    PartnerInLatest (history ++ [last]) client sessionId peer addr ↔ last.ToNew peer addr sessionId := by
  simp only [PartnerInLatest, List.length_append, List.length_singleton, latestBefore_snoc_of complete]
  constructor
  · rintro ⟨index, handled, ⟨rfl, rfl⟩, toNew⟩
    exact toNew
  · intro toNew
    exact ⟨_, _, ⟨rfl, rfl⟩, toNew⟩

/-- Every handled request keeps the session table and the history together. -/
theorem SessionsRefine.receive {run : ServerRun} (refines : SessionsRefine run) (request : AcceptedRequest) :
    SessionsRefine (run.receive request) := by
  intro client sessionId peer addr
  rw [ServerRun.receive]
  generalize outcome : run.state.handle request = result
  have handled := run.state.handle_case request
  rw [outcome] at handled
  cases handled with
  | lost activeSession stored same =>
      rw [partnerInLatest_snoc_of_not]
      · exact refines client sessionId peer addr
      · rintro ⟨_, _, _, _, toNew⟩
        exact lostReply_not_toNew request _ _ _ _ _ toNew
  | placed notLost absent =>
      rw [partnerInLatest_snoc_of_not]
      · exact refines client sessionId peer addr
      · rintro ⟨_, _, _, _, toNew⟩
        exact noReply_not_toNew request _ _ _ toNew
  | matched before after peerPubkey pending notLost listed absent present =>
      dsimp only
      rw [UdpState.consumed, UdpState.cleanup_lastSessionIds, Std.ExtTreeMap.getElem?_insert]
      by_cases sender : request.senderPubkey = client
      · rw [if_pos (Std.LawfulEqCmp.compare_eq_iff_eq.mpr sender), partnerInLatest_snoc_of, matchReplies_toNew]
        · simp only [Option.some.injEq, ActiveSession.mk.injEq]
          tauto
        · exact ⟨sender, _, (matchReplies_matchedWith request pending _).mpr rfl⟩
      · rw [if_neg fun equal => sender (Std.LawfulEqCmp.compare_eq_iff_eq.mp equal), partnerInLatest_snoc_of_not]
        · exact refines client sessionId peer addr
        · exact fun complete => sender complete.1

theorem serverRun_sessionsRefine {run : ServerRun} (reachable : serverMachine.Reachable run) : SessionsRefine run := by
  refine reachable.invariant SessionsRefine ?_ ?_
  · rintro run rfl client sessionId peer addr
    constructor
    · intro found
      simp [ServerRun.start, UdpState.new] at found
    · rintro ⟨index, _, latest, _⟩
      exact absurd latest.1 (Nat.not_lt_zero index)
  · intro run request _ refines _
    exact refines.receive request

/-- The request is answered with one lost notification that names this partner. It makes no match and adds no
pending entry. -/
def LostAnswer (state : UdpState) (request : AcceptedRequest) (peer : PublicKey) (addr : SocketAddrV4) : Prop :=
  (state.handle request).2 = [⟨request.addr, .lostConnectionRequest peer addr⟩] ∧
    ∀ requester target pending, (state.handle request).1.pending requester target = some pending →
      state.pending requester target = some pending

/-- The lost check compares the request with the stored session. -/
theorem lostAnswer_iff (state : UdpState) (request : AcceptedRequest) (peer : PublicKey) (addr : SocketAddrV4) :
    LostAnswer state request peer addr ↔
      state.lastSessionIds[request.senderPubkey]? = some ⟨request.sessionId, addr, peer⟩ := by
  rw [LostAnswer]
  generalize outcome : state.handle request = result
  have handled := state.handle_case request
  rw [outcome] at handled
  cases handled with
  | lost activeSession stored same =>
      obtain ⟨sessionId, remoteAddr, remotePeer⟩ := activeSession
      change sessionId = request.sessionId at same
      subst same
      rw [stored]
      constructor
      · rintro ⟨replies, _⟩
        cases replies
        rfl
      · intro equal
        cases equal
        refine ⟨rfl, fun requester target pending kept => ?_⟩
        exact ((state.cleanup_pending_eq_some _ _ _ _).mp kept).1
  | matched before after peerPubkey pending notLost listed absent present =>
      constructor
      · rintro ⟨replies, _⟩
        simp [UdpState.matchReplies] at replies
      · intro stored
        exact absurd ⟨_, stored, rfl⟩ notLost
  | placed notLost absent =>
      constructor
      · rintro ⟨replies, _⟩
        cases replies
      · intro stored
        exact absurd ⟨_, stored, rfl⟩ notLost

/-- The request is answered as lost exactly when its sender used the session in its latest match, and the answer
names the partner of that match. -/
def LostExact (run : ServerRun) (request : AcceptedRequest) : Prop :=
  let used := UsedInLatest run.handled request.senderPubkey request.sessionId
  ((∃ peer addr, LostAnswer run.state request peer addr) ↔ ∃ peer addr, used peer addr) ∧
    ∀ peer addr, LostAnswer run.state request peer addr → used peer addr

/-- The session is neither the client's own one of its latest match nor the partner's one of the latest match that
the client completed, or it is both, with one partner. -/
def SessionsAgree (history : List Handled) (client : PublicKey) (sessionId : UInt32) : Prop :=
  ((∀ peer addr, ¬ UsedInLatest history client sessionId peer addr) ∧
    ∀ peer addr, ¬ PartnerInLatest history client sessionId peer addr) ∨
  ∃ peer addr, UsedInLatest history client sessionId peer addr ∧ PartnerInLatest history client sessionId peer addr

/-- The lost check is exact if and only if the client's own session and the stored one agree on the request. -/
theorem server_lostExact_iff {run : ServerRun} (reachable : serverMachine.Reachable run) (request : AcceptedRequest) :
    LostExact run request ↔ SessionsAgree run.handled request.senderPubkey request.sessionId := by
  have answered (peer : PublicKey) (addr : SocketAddrV4) : LostAnswer run.state request peer addr ↔
      PartnerInLatest run.handled request.senderPubkey request.sessionId peer addr := by
    rw [lostAnswer_iff, serverRun_sessionsRefine reachable]
  have single {peer other : PublicKey} {addr address : SocketAddrV4}
      (first : LostAnswer run.state request peer addr) (second : LostAnswer run.state request other address) :
      peer = other ∧ addr = address := by
    have replies := first.1.symm.trans second.1
    simpa using replies
  rw [LostExact, SessionsAgree]
  constructor
  · rintro ⟨exact, names⟩
    by_cases someone : ∃ peer addr, LostAnswer run.state request peer addr
    · obtain ⟨peer, addr, lost⟩ := someone
      exact .inr ⟨peer, addr, names peer addr lost, (answered peer addr).mp lost⟩
    · refine .inl ⟨fun peer addr used => someone (exact.mpr ⟨peer, addr, used⟩), fun peer addr stored => ?_⟩
      exact someone ⟨peer, addr, (answered peer addr).mpr stored⟩
  · rintro (⟨unused, unstored⟩ | ⟨peer, addr, used, stored⟩)
    · have never (peer : PublicKey) (addr : SocketAddrV4) : ¬ LostAnswer run.state request peer addr :=
        fun lost => unstored peer addr ((answered peer addr).mp lost)
      refine ⟨⟨?_, ?_⟩, fun peer addr lost => absurd lost (never peer addr)⟩
      · rintro ⟨peer, addr, lost⟩
        exact absurd lost (never peer addr)
      · rintro ⟨peer, addr, used⟩
        exact absurd used (unused peer addr)
    · have lost := (answered peer addr).mpr stored
      refine ⟨⟨fun _ => ⟨peer, addr, used⟩, fun _ => ⟨peer, addr, lost⟩⟩, fun other address again => ?_⟩
      obtain ⟨rfl, rfl⟩ := single lost again
      exact used

/-- Client 1 waits for client 2 with session 11. -/
def sampleFirst : AcceptedRequest := sampleRequest 1 11 2 none 0

/-- The answer of client 2 to client 1. -/
def sampleAnswer (sessionId : UInt32) : Handled :=
  ⟨sampleRequest 2 sessionId 1 none 1,
    UdpState.matchReplies (sampleRequest 2 sessionId 1 none 1) (UdpState.pendingOf sampleFirst)⟩

theorem sampleAnswer_toNew (sessionId : UInt32) : (sampleAnswer sessionId).ToNew (sampleKey 1) (sampleAddr 1) 11 :=
  (matchReplies_toNew _ _ _ _ _).mpr ⟨rfl, rfl, rfl⟩

/-- The last item of a history of two items is its latest. -/
theorem sample_latest {history : List Handled} {property : Handled → Prop} {last : Handled}
    (two : history.length = 2) (found : history[1]? = some last) (holds : property last) :
    LatestBefore history property history.length 1 last := by
  rw [two]
  exact ⟨by decide, found, holds, fun later _ after before => by omega⟩

/-- Both clients of the match used session 11. The retry of client 2 is answered as lost. -/
theorem server_lostExact_sample :
    LostExact (sampleRun [sampleFirst, sampleRequest 2 11 1 none 1]) (sampleRequest 2 11 1 none 2) := by
  refine (server_lostExact_iff (sampleRun_reachable _ (by decide)) _).mpr (.inr ⟨sampleKey 1, sampleAddr 1, ?_, ?_⟩)
  · have role : (sampleAnswer 11).Role (sampleKey 2) 11 (sampleKey 1) (sampleAddr 1) :=
      .inl ⟨rfl, rfl, 11, sampleAnswer_toNew 11⟩
    exact ⟨1, sampleAnswer 11, sample_latest (by decide +kernel) (by decide +kernel) ⟨_, _, _, role⟩, role⟩
  · have complete : (sampleAnswer 11).CompletedBy (sampleKey 2) := ⟨rfl, _, _, _, sampleAnswer_toNew 11⟩
    exact ⟨1, sampleAnswer 11, sample_latest (by decide +kernel) (by decide +kernel) complete, sampleAnswer_toNew 11⟩

/-- Client 1 waited and client 2 completed the match. The retry of client 1 is not answered as lost. -/
theorem server_lostExact_fails :
    ¬ ∀ run request, serverMachine.Reachable run → serverMachine.allowed run request → LostExact run request := by
  intro claim
  obtain ⟨exact, _⟩ := claim (sampleRun [sampleFirst, sampleRequest 2 12 1 none 1]) (sampleRequest 1 11 2 none 2)
    (sampleRun_reachable _ (by decide)) (by decide +kernel)
  have role : (sampleAnswer 12).Role (sampleKey 1) 11 (sampleKey 2) (sampleAddr 2) :=
    .inr ⟨rfl, rfl, sampleAddr 1, sampleAnswer_toNew 12⟩
  obtain ⟨peer, addr, lost⟩ := exact.mpr ⟨_, _, 1, sampleAnswer 12,
    sample_latest (by decide +kernel) (by decide +kernel) ⟨_, _, _, role⟩, role⟩
  have stored := (lostAnswer_iff _ _ _ _).mp lost
  have nothing : (sampleRun [sampleFirst, sampleRequest 2 12 1 none 1]).state.lastSessionIds[sampleKey 1]? = none := by
    decide +kernel
  rw [show (sampleRequest 1 11 2 none 2).senderPubkey = sampleKey 1 from rfl, nothing] at stored
  cases stored

end RepriseP2p.Udp
