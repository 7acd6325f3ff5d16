/-
This file proves to whom the server discloses an address, and to which addresses it sends.
-/

import RepriseP2p.Udp.ServerStep

namespace RepriseP2p.Udp

variable {DateTime SigningKey : Type}

/-- The server's tables after these datagrams, oldest first. -/
def UdpState.afterReceived (crates : Crates SigningKey DateTime) (log : List (Received DateTime)) : UdpState :=
  log.foldl (fun state received => (state.receive crates received).1) .new

/-- The client that the message tells about. -/
def FromServerMessage.peerPubkey : FromServerMessage → PublicKey
  | .initiateConnectionRequest peerPubkey _ _ _ => peerPubkey
  | .lostConnectionRequest peerPubkey _ => peerPubkey

def FromServerMessage.peerAddress : FromServerMessage → SocketAddrV4
  | .initiateConnectionRequest _ peerAddress _ _ => peerAddress
  | .lostConnectionRequest _ peerAddress => peerAddress

/-- The datagram is a valid and fresh request, signed by this client for these peers and sent from this address. -/
def Received.ValidRequest (crates : Crates SigningKey DateTime) (received : Received DateTime) (client : PublicKey)
    (addr : SocketAddrV4) (peerPubkeys : List PublicKey) : Prop :=
  received.src = .v4 addr ∧ ∃ sessionId tm,
    ToServerSignedMessage.tryParse crates received.bytes = .ok (.connectionRequest peerPubkeys sessionId, client, tm) ∧
      (crates.numSeconds received.utcNow tm).natAbs ≤ signedMsgValidS

/-- The client asked for the target from this address. -/
def Asked (crates : Crates SigningKey DateTime) (log : List (Received DateTime)) (client : PublicKey)
    (addr : SocketAddrV4) (target : PublicKey) : Prop :=
  ∃ received ∈ log, ∃ peerPubkeys, received.ValidRequest crates client addr peerPubkeys ∧ target ∈ peerPubkeys

section Tables

variable {asked : PublicKey → SocketAddrV4 → PublicKey → Prop}

/-- Every stored address is one from which its owner asked for the client that may learn it. -/
structure UdpState.Sourced (state : UdpState) (asked : PublicKey → SocketAddrV4 → PublicKey → Prop) : Prop where
  pending : ∀ requester target pending, state.pending requester target = some pending →
    pending.requesterPubkey = requester ∧ asked requester pending.requesterAddr target
  session : ∀ client (activeSession : ActiveSession), state.lastSessionIds[client]? = some activeSession →
    asked activeSession.remotePeer activeSession.remoteAddr client

theorem UdpState.new_sourced : UdpState.new.Sourced asked where
  pending _ _ _ found := by simp [new, UdpState.pending] at found
  session _ _ found := by simp [new] at found

theorem UdpState.Sourced.mono {state : UdpState} {more : PublicKey → SocketAddrV4 → PublicKey → Prop}
    (sourced : state.Sourced asked) (grows : ∀ client addr target, asked client addr target → more client addr target) :
    state.Sourced more where
  pending requester target pending found :=
    ⟨(sourced.pending requester target pending found).1, grows _ _ _ (sourced.pending requester target pending found).2⟩
  session client activeSession found := grows _ _ _ (sourced.session client activeSession found)

theorem UdpState.Sourced.cleanup {state : UdpState} (sourced : state.Sourced asked) (now : Instant) :
    (state.cleanup now).Sourced asked where
  pending requester target pending found :=
    sourced.pending requester target pending ((state.cleanup_pending_eq_some _ _ _ _).mp found).1
  session client activeSession found := sourced.session client activeSession found

/-- The datagram tells about a client that asked, from the told address, for a client that asked from the
datagram's destination. -/
def Datagram.Consented (datagram : Datagram) (asked : PublicKey → SocketAddrV4 → PublicKey → Prop) : Prop :=
  ∃ reader, asked datagram.message.peerPubkey datagram.message.peerAddress reader ∧
    ∃ target, asked reader datagram.dst target

/-- A handled request keeps the tables sourced, and its answers are consented. -/
theorem UdpState.Sourced.handle {state : UdpState} (sourced : state.Sourced asked) (request : AcceptedRequest)
    (asks : ∀ target ∈ request.peerPubkeys, asked request.senderPubkey request.addr target) :
    (state.handle request).1.Sourced asked ∧
      ∀ datagram ∈ (state.handle request).2, datagram.Consented asked := by
  have entries (requester target : PublicKey) (pending : PendingRequest)
      (found : (state.handle request).1.pending requester target = some pending) :
      pending.requesterPubkey = requester ∧ asked requester pending.requesterAddr target := by
    obtain old | ⟨rfl, placed⟩ := state.handle_row request requester
    · exact sourced.pending requester target pending (old target pending found)
    · obtain ⟨named, rfl⟩ := placed target pending found
      exact ⟨rfl, asks target named⟩
  have cleaned := sourced.cleanup request.now
  generalize outcome : state.handle request = result at entries
  have handled := state.handle_case request
  rw [outcome] at handled
  cases handled with
  | lost activeSession stored same =>
      refine ⟨cleaned, ?_⟩
      intro datagram sent
      rw [List.mem_singleton.mp sent]
      obtain ⟨listed, someone⟩ := List.exists_mem_of_length_pos request.listed.1
      exact ⟨request.senderPubkey, sourced.session _ _ stored, listed, asks listed someone⟩
  | placed notLost absent => exact ⟨⟨entries, cleaned.session⟩, by simp⟩
  | matched before after peerPubkey pending notLost listed absent present =>
      obtain ⟨owner, consent⟩ := cleaned.pending peerPubkey request.senderPubkey pending present
      have named := asks peerPubkey (by simp [listed])
      refine ⟨⟨entries, ?_⟩, ?_⟩
      · intro client activeSession found
        rw [consumed, Std.ExtTreeMap.getElem?_insert] at found
        split_ifs at found with own
        · cases found
          rw [← Std.LawfulEqCmp.compare_eq_iff_eq.mp own, owner]
          exact consent
        · exact cleaned.session client activeSession found
      · intro datagram sent
        simp only [matchReplies, List.mem_cons, List.not_mem_nil, or_false] at sent
        obtain rfl | rfl := sent
        · exact ⟨peerPubkey, named, request.senderPubkey, consent⟩
        · refine ⟨request.senderPubkey, ?_, peerPubkey, named⟩
          rw [FromServerMessage.peerPubkey, owner]
          exact consent

end Tables

variable (crates : Crates SigningKey DateTime)

theorem Asked.mono {log more : List (Received DateTime)} {client target : PublicKey} {addr : SocketAddrV4}
    (asked : Asked crates log client addr target) : Asked crates (log ++ more) client addr target := by
  obtain ⟨received, member, rest⟩ := asked
  exact ⟨received, List.mem_append_left more member, rest⟩

/-- One round of the loop keeps the tables sourced in the log, and sends only what the log consents to. -/
theorem UdpState.Sourced.receive {state : UdpState} {log : List (Received DateTime)}
    (sourced : state.Sourced (Asked crates log)) (received : Received DateTime) :
    (state.receive crates received).1.Sourced (Asked crates (log ++ [received])) ∧
      ∀ datagram ∈ (state.receive crates received).2, datagram.Consented (Asked crates (log ++ [received])) := by
  have grown : state.Sourced (Asked crates (log ++ [received])) :=
    sourced.mono fun client addr target asked => asked.mono crates
  cases carried : received.request crates with
  | none =>
      rw [receive_of_no_request crates carried]
      exact ⟨grown, by simp⟩
  | some request =>
      rw [receive_of_request crates carried]
      apply grown.handle
      intro target named
      obtain ⟨source, tm, parsed, fresh⟩ := Received.request_eq_some crates carried
      exact ⟨received, by simp, request.peerPubkeys, ⟨source, request.sessionId, tm, parsed, fresh⟩, named⟩

theorem UdpState.afterReceived_sourced (log : List (Received DateTime)) :
    (UdpState.afterReceived crates log).Sourced (Asked crates log) := by
  induction log using List.reverseRecOn with
  | nil => exact new_sourced
  | append_singleton log received ih =>
      rw [afterReceived, List.foldl_append]
      exact (ih.receive crates received).1

/-- A datagram about client X goes to an address from which a client signed a valid request, after X had asked for
that client from the told address. -/
theorem server_discloses_consented (log : List (Received DateTime)) (received : Received DateTime)
    (datagram : Datagram) (sent : datagram ∈ ((UdpState.afterReceived crates log).receive crates received).2) :
    (∃ reader, Asked crates (log ++ [received]) datagram.message.peerPubkey datagram.message.peerAddress reader ∧
        ∃ earlier ∈ log ++ [received], ∃ peerPubkeys, earlier.ValidRequest crates reader datagram.dst peerPubkeys) ∧
      ∃ earlier ∈ log ++ [received], ∃ client peerPubkeys, earlier.ValidRequest crates client datagram.dst peerPubkeys := by
  have sourced := UdpState.afterReceived_sourced crates log
  obtain ⟨reader, owner, target, earlier, member, peerPubkeys, valid, _⟩ := (sourced.receive crates received).2 datagram sent
  exact ⟨⟨reader, owner, earlier, member, peerPubkeys, valid⟩, earlier, member, reader, peerPubkeys, valid⟩

def sampleReceived (name : UInt8) (sessionId : UInt32) (peer : UInt8) (secs : UInt8) : Received UtcNanos where
  src := .v4 (sampleAddr name)
  bytes := sampleDatagram name sessionId peer (sampleUtc secs)
  utcNow := sampleUtc secs
  now := Duration.fromSecs secs.toNat

/-- Client 1 asks for client 2, and learns its address when client 2 asks for client 1. -/
theorem server_discloses_consented_sample :
    let log := [sampleReceived 1 11 2 0]
    let received := sampleReceived 2 12 1 1
    let datagram : Datagram := ⟨sampleAddr 1, .initiateConnectionRequest (sampleKey 2) (sampleAddr 2) 12 false⟩
    (∃ reader, Asked plainCrates (log ++ [received]) datagram.message.peerPubkey datagram.message.peerAddress reader ∧
        ∃ earlier ∈ log ++ [received], ∃ peerPubkeys,
          earlier.ValidRequest plainCrates reader datagram.dst peerPubkeys) ∧
      ∃ earlier ∈ log ++ [received], ∃ client peerPubkeys,
        earlier.ValidRequest plainCrates client datagram.dst peerPubkeys :=
  server_discloses_consented plainCrates _ _ _ (by decide +kernel)

end RepriseP2p.Udp
