/-
This file models the UDP server: its two tables and the handling of one datagram.
-/

import RepriseP2p.Foundation.NestedMap
import RepriseP2p.Foundation.Time
import RepriseP2p.Udp.RequestGrammar

namespace RepriseP2p.Udp

def requestTimeoutS : Nat := 10
def signedMsgValidS : Nat := 30

structure PendingRequest where
  requesterPubkey : PublicKey
  requesterAddr : SocketAddrV4
  requesterSessionId : UInt32
  tm : Instant
  deriving DecidableEq

structure ActiveSession where
  sessionId : UInt32
  remoteAddr : SocketAddrV4
  remotePeer : PublicKey
  deriving DecidableEq

/-- The pending requests by requester and target, and the last session by client. -/
structure UdpState where
  requests : NestedMap PublicKey PublicKey PendingRequest
  lastSessionIds : Std.ExtTreeMap PublicKey ActiveSession compare

/-- A connection request that was parsed and found fresh. One clock reading stands for its handling. -/
structure AcceptedRequest where
  senderPubkey : PublicKey
  addr : SocketAddrV4
  sessionId : UInt32
  peerPubkeys : List PublicKey
  listed : 1 ≤ peerPubkeys.length ∧ peerPubkeys.length ≤ 10
  now : Instant
  deriving DecidableEq

/-- A message that the server sends, and where to. -/
structure Datagram where
  dst : SocketAddrV4
  message : FromServerMessage
  deriving DecidableEq

namespace UdpState

def new : UdpState := ⟨∅, ∅⟩

def cleanup (state : UdpState) (now : Instant) : UdpState :=
  { state with
    requests := NestedMap.retain
      (fun pending => decide ((now.elapsed pending.tm).asSecs < requestTimeoutS)) state.requests }

/-- The loop over the listed peers. It stops at the first one that has a pending entry for the sender. -/
def takePending (senderPubkey : PublicKey) : List PublicKey → NestedMap PublicKey PublicKey PendingRequest →
    Option (PublicKey × PendingRequest) × NestedMap PublicKey PublicKey PendingRequest
  | [], requests => (none, requests)
  | peerPubkey :: peerPubkeys, requests =>
      match requests[peerPubkey]? with
      | none => takePending senderPubkey peerPubkeys requests
      | some innerMap =>
          let requests := requests.insert peerPubkey (innerMap.erase senderPubkey)
          match innerMap[senderPubkey]? with
          | some pending => (some (peerPubkey, pending), requests)
          | none => takePending senderPubkey peerPubkeys requests

/-- The messages to the original and to the new requester of a match, in the order of sending. -/
def matchReplies (request : AcceptedRequest) (pending : PendingRequest) : List Datagram :=
  [⟨pending.requesterAddr,
      .initiateConnectionRequest request.senderPubkey request.addr request.sessionId false⟩,
    ⟨request.addr,
      .initiateConnectionRequest pending.requesterPubkey pending.requesterAddr pending.requesterSessionId true⟩]

def pendingOf (request : AcceptedRequest) : PendingRequest :=
  ⟨request.senderPubkey, request.addr, request.sessionId, request.now⟩

/-- The handling of a request whose session is not the stored one. -/
def matchOrPlace (state : UdpState) (request : AcceptedRequest) : UdpState × List Datagram :=
  match takePending request.senderPubkey request.peerPubkeys state.requests with
  | (some (peerPubkey, pending), requests) =>
      let requests := NestedMap.dropEmpty requests peerPubkey
      let lastSessionIds := state.lastSessionIds.insert request.senderPubkey
        ⟨pending.requesterSessionId, pending.requesterAddr, pending.requesterPubkey⟩
      (⟨requests.erase request.senderPubkey, lastSessionIds⟩, matchReplies request pending)
  | (none, requests) =>
      let row := NestedMap.constantRow request.peerPubkeys (pendingOf request)
      (⟨requests.insert request.senderPubkey row, state.lastSessionIds⟩, [])

/-- The handling of an accepted request. -/
def handle (state : UdpState) (request : AcceptedRequest) : UdpState × List Datagram :=
  let state := state.cleanup request.now
  match state.lastSessionIds[request.senderPubkey]? with
  | some activeSession =>
      if activeSession.sessionId = request.sessionId then
        (state, [⟨request.addr, .lostConnectionRequest activeSession.remotePeer activeSession.remoteAddr⟩])
      else state.matchOrPlace request
  | none => state.matchOrPlace request

end UdpState

variable {SigningKey DateTime : Type} (crates : Crates SigningKey DateTime)

/-- An accepted datagram lists one to ten keys. -/
theorem ToServerSignedMessage.tryParse_listed {bytes : List UInt8} {peerPubkeys : List PublicKey}
    {sessionId : UInt32} {pubkey : PublicKey} {timestamp : DateTime}
    (accepted : ToServerSignedMessage.tryParse crates bytes =
      .ok (.connectionRequest peerPubkeys sessionId, pubkey, timestamp)) :
    1 ≤ peerPubkeys.length ∧ peerPubkeys.length ≤ 10 := by
  obtain ⟨_, _, payload, _, _, _, _, parsed⟩ := (tryParse_ok_iff crates _ _ _ _).mp accepted
  exact ((parsePayload_ok_iff payload peerPubkeys sessionId).mp parsed).2

/-- A datagram from an IPv4 address passes when it parses and its timestamp is near the clock. -/
def acceptDatagram (addr : SocketAddrV4) (bytes : List UInt8) (utcNow : DateTime) (now : Instant) :
    Option AcceptedRequest :=
  match parsed : ToServerSignedMessage.tryParse crates bytes with
  | .ok (.connectionRequest peerPubkeys sessionId, senderPubkey, tm) =>
      if (crates.numSeconds utcNow tm).natAbs > signedMsgValidS then none
      else some ⟨senderPubkey, addr, sessionId, peerPubkeys,
        ToServerSignedMessage.tryParse_listed crates parsed, now⟩
  | .err _ => none
  | .panic => none

/-- A passed datagram carries the fields of its request. -/
theorem acceptDatagram_eq_some {addr : SocketAddrV4} {bytes : List UInt8} {utcNow : DateTime} {now : Instant}
    {request : AcceptedRequest} (accepted : acceptDatagram crates addr bytes utcNow now = some request) :
    request.addr = addr ∧ request.now = now ∧ ∃ tm,
      ToServerSignedMessage.tryParse crates bytes =
        .ok (.connectionRequest request.peerPubkeys request.sessionId, request.senderPubkey, tm) ∧
      (crates.numSeconds utcNow tm).natAbs ≤ signedMsgValidS := by
  rw [acceptDatagram] at accepted
  split at accepted
  · rename_i peerPubkeys sessionId senderPubkey tm parsed
    split_ifs at accepted with stale
    cases accepted
    exact ⟨rfl, rfl, tm, parsed, Nat.le_of_not_lt stale⟩
  · cases accepted
  · cases accepted

/-- A parsed datagram with a timestamp near the clock passes. -/
theorem acceptDatagram_of_parsed {addr : SocketAddrV4} {bytes : List UInt8} {utcNow : DateTime} {now : Instant}
    {peerPubkeys : List PublicKey} {sessionId : UInt32} {senderPubkey : PublicKey} {tm : DateTime}
    (parsed : ToServerSignedMessage.tryParse crates bytes =
      .ok (.connectionRequest peerPubkeys sessionId, senderPubkey, tm))
    (fresh : (crates.numSeconds utcNow tm).natAbs ≤ signedMsgValidS) :
    acceptDatagram crates addr bytes utcNow now = some ⟨senderPubkey, addr, sessionId, peerPubkeys,
      ToServerSignedMessage.tryParse_listed crates parsed, now⟩ := by
  rw [acceptDatagram]
  split
  · rename_i otherPeers otherSession otherSender otherTm again
    cases parsed.symm.trans again
    exact if_neg (Nat.not_lt.mpr fresh)
  · rename_i error again
    cases parsed.symm.trans again
  · rename_i again
    cases parsed.symm.trans again

/-- One datagram that `recv_from` returns, and the clock readings of its handling. -/
structure Received (DateTime : Type) where
  src : SocketAddr
  bytes : List UInt8
  utcNow : DateTime
  now : Instant

/-- One round of the server's loop. -/
def UdpState.receive (state : UdpState) (received : Received DateTime) :
    UdpState × List Datagram :=
  match received.src with
  | .v6 _ => (state, [])
  | .v4 addr =>
      match acceptDatagram crates addr received.bytes received.utcNow received.now with
      | some request => state.handle request
      | none => (state, [])

/-- The request that a received datagram carries, if the server accepts it. -/
def Received.request (received : Received DateTime) : Option AcceptedRequest :=
  match received.src with
  | .v6 _ => none
  | .v4 addr => acceptDatagram crates addr received.bytes received.utcNow received.now

theorem Received.request_eq_some {received : Received DateTime} {request : AcceptedRequest}
    (carried : received.request crates = some request) :
    received.src = .v4 request.addr ∧ ∃ tm,
      ToServerSignedMessage.tryParse crates received.bytes =
        .ok (.connectionRequest request.peerPubkeys request.sessionId, request.senderPubkey, tm) ∧
      (crates.numSeconds received.utcNow tm).natAbs ≤ signedMsgValidS := by
  unfold Received.request at carried
  cases source : received.src with
  | v6 addr => simp [source] at carried
  | v4 addr =>
      simp only [source] at carried
      obtain ⟨sameAddr, _, parsed⟩ := acceptDatagram_eq_some crates carried
      exact ⟨congrArg SocketAddr.v4 sameAddr.symm, parsed⟩

theorem UdpState.receive_of_request {state : UdpState} {received : Received DateTime} {request : AcceptedRequest}
    (accepted : received.request crates = some request) : state.receive crates received = state.handle request := by
  unfold Received.request at accepted
  unfold receive
  cases source : received.src with
  | v6 addr => simp [source] at accepted
  | v4 addr =>
      simp only [source] at accepted
      simp only [accepted]

theorem UdpState.receive_of_no_request {state : UdpState} {received : Received DateTime}
    (refused : received.request crates = none) : state.receive crates received = (state, []) := by
  unfold Received.request at refused
  unfold receive
  cases source : received.src with
  | v6 addr => rfl
  | v4 addr =>
      simp only [source] at refused
      simp only [refused]

end RepriseP2p.Udp
