/-
This file models `poll_accept` as a machine that stops at every await of the source.
-/

import RepriseP2p.Udp.Client

namespace RepriseP2p.Udp

/-- The fields of an `InitiateConnectionRequest`. -/
structure Notification where
  peerPubkey : PublicKey
  peerAddress : SocketAddrV4
  remoteSessionId : UInt32
  isListener : Bool
  deriving DecidableEq

def Notification.message (notification : Notification) : FromServerMessage :=
  .initiateConnectionRequest notification.peerPubkey notification.peerAddress notification.remoteSessionId
    notification.isListener

structure HolePunchError where
  gotPunch : Bool
  gotAck : Bool
  deriving DecidableEq

inductive PollError where
  | receiving
  | parsing (error : ParseError)
  | notTrusted
  | holePunch (peerAddress : SocketAddrV4) (remoteSessionId : UInt32) (error : HolePunchError)
  deriving DecidableEq

structure NewP2pConnection where
  pubkey : PublicKey
  remoteAddr : SocketAddr
  socket : UdpSocket
  isListener : Bool
  deriving DecidableEq

abbrev PollResult := Option (Except PollError NewP2pConnection)

/-- Where the client waits. It is idle between two calls, with the result of the last one. -/
inductive Stage where
  | idle (result : PollResult)
  | rebinding (interface : Option String)
  | pausing
  | sending (payload : List UInt8)
  | receiving
  | swapping (notification : Notification)
  | punching (notification : Notification) (socket : UdpSocket)
  | panicked
  deriving DecidableEq

/-- What the world answers at an await, or a call between two of them. -/
inductive ClientEvent (DateTime : Type) where
  | call (call : UdpConnectionEstablisher.Call)
  | pollAccept (interface : Option String) (utcNow : DateTime)
  | rebound (addr : SocketAddrV4) (utcNow : DateTime)
  | paused
  | sent
  | received (src : SocketAddr) (bytes : List UInt8) (random : UInt32)
  | receiveFailed
  | timedOut
  | swapped (interface : Option String) (addr : SocketAddrV4) (random : UInt32)
  | punched (outcome : Except HolePunchError SocketAddr)
  | dropped

/-- What a client did. -/
inductive ClientAct (DateTime : Type) where
  | called (call : UdpConnectionEstablisher.Call)
  | requested (timestamp : DateTime) (message : ToServerSignedMessage)
  | sent (src : SocketAddrV4) (payload : List UInt8)
  | accepted (notification : Notification)
  deriving DecidableEq

/-- A client, where it waits, and what it did, oldest first. -/
structure ClientRun (SigningKey DateTime : Type) where
  establisher : UdpConnectionEstablisher SigningKey
  stage : Stage
  acts : List (ClientAct DateTime)

namespace ClientRun

variable {SigningKey DateTime : Type} (crates : Crates SigningKey DateTime)

def start (establisher : UdpConnectionEstablisher SigningKey) : ClientRun SigningKey DateTime :=
  ⟨establisher, .idle none, []⟩

/-- The datagrams that the client sent, with their source address. -/
def outbox (run : ClientRun SigningKey DateTime) : List (SocketAddrV4 × List UInt8) :=
  run.acts.filterMap fun
    | .sent src payload => some (src, payload)
    | _ => none

/-- The messages that the client signed. -/
def signatures (run : ClientRun SigningKey DateTime) : List (List UInt8) :=
  run.acts.filterMap fun
    | .requested timestamp message => some (message.signedPart crates timestamp)
    | _ => none

/-- The part of `poll_accept` that signs a request when the interval is over. -/
def placeRequests (now : Instant) (utcNow : DateTime) (run : ClientRun SigningKey DateTime) :
    ClientRun SigningKey DateTime :=
  if run.establisher.requestDue now then
    let (peerPubkeys, establisher) := run.establisher.newAvailableRemotesList now
    let run := { run with establisher }
    if peerPubkeys.isEmpty then { run with stage := .pausing }
    else
      let message := ToServerSignedMessage.connectionRequest peerPubkeys establisher.sessionId
      match message.toBytes crates establisher.key utcNow with
      | .ok payload => { run with stage := .sending payload, acts := run.acts ++ [.requested utcNow message] }
      | .panic => { run with stage := .panicked }
  else { run with stage := .receiving }

/-- The checks of an `InitiateConnectionRequest`. -/
def initiate (now : Instant) (notification : Notification) (run : ClientRun SigningKey DateTime) :
    ClientRun SigningKey DateTime :=
  let remotes := run.establisher.trustedRemotes
  match remotes[notification.peerPubkey]? with
  | none => { run with stage := .idle (some (.error .notTrusted)) }
  | some state =>
      if state.isDiscoveryEnabled now = false then { run with stage := .idle none }
      else if state.lastAcceptedSessionId = some notification.remoteSessionId then { run with stage := .idle none }
      else
        let state := { state with lastAcceptedSessionId := some notification.remoteSessionId }
        { establisher := { run.establisher with trustedRemotes := remotes.insert notification.peerPubkey state }
          stage := .swapping notification
          acts := run.acts ++ [.accepted notification] }

/-- The handling of one datagram. -/
def receive (now : Instant) (src : SocketAddr) (bytes : List UInt8) (random : UInt32)
    (run : ClientRun SigningKey DateTime) : ClientRun SigningKey DateTime :=
  if src ≠ .v4 run.establisher.p2pServerAddr then { run with stage := .idle none }
  else
    match FromServerMessage.tryParse bytes with
    | .ok (.initiateConnectionRequest peerPubkey peerAddress remoteSessionId isListener) =>
        run.initiate now ⟨peerPubkey, peerAddress, remoteSessionId, isListener⟩
    | .ok (.lostConnectionRequest _ _) =>
        { run with establisher := { run.establisher with sessionId := random }, stage := .idle none }
    | .err error => { run with stage := .idle (some (.error (.parsing error))) }
    | .panic => { run with stage := .panicked }

/-- The end of a hole punch. -/
def finish (now : Instant) (notification : Notification) (socket : UdpSocket)
    (outcome : Except HolePunchError SocketAddr) (run : ClientRun SigningKey DateTime) :
    ClientRun SigningKey DateTime :=
  let remotes := run.establisher.trustedRemotes
  match outcome with
  | .ok addr =>
      { run with
        establisher := { run.establisher with
          trustedRemotes := remotes.modify notification.peerPubkey .connected
          lastRequestTm := none }
        stage := .idle (some (.ok ⟨notification.peerPubkey, addr, socket, notification.isListener⟩)) }
  | .error error =>
      { run with
        establisher := { run.establisher with
          trustedRemotes := remotes.modify notification.peerPubkey (·.failed now)
          lastRequestTm := none }
        stage := .idle (some (.error
          (.holePunch notification.peerAddress notification.remoteSessionId error))) }

/-- One step of a client. An event that does not fit the stage has no effect. -/
def step (now : Instant) (run : ClientRun SigningKey DateTime) (event : ClientEvent DateTime) :
    ClientRun SigningKey DateTime :=
  match run.stage, event with
  | .idle _, .call call =>
      { run with establisher := run.establisher.call call, acts := run.acts ++ [.called call] }
  | .idle _, .pollAccept interface utcNow =>
      if interface ≠ run.establisher.curInterface then { run with stage := .rebinding interface }
      else run.placeRequests crates now utcNow
  | .rebinding interface, .rebound addr utcNow =>
      let establisher := { run.establisher with socket := ⟨addr, interface⟩, curInterface := interface }
      { run with establisher }.placeRequests crates now utcNow
  | .pausing, .paused => { run with stage := .idle none }
  | .sending payload, .sent =>
      { establisher := { run.establisher with lastRequestTm := some now }
        stage := .receiving
        acts := run.acts ++ [.sent run.establisher.socket.addr payload] }
  | .receiving, .received src bytes random => run.receive now src bytes random
  | .receiving, .receiveFailed => { run with stage := .idle (some (.error .receiving)) }
  | .receiving, .timedOut => { run with stage := .idle none }
  | .swapping notification, .swapped interface addr random =>
      { run with
        establisher := { run.establisher with socket := ⟨addr, interface⟩, sessionId := random }
        stage := .punching notification run.establisher.socket }
  | .punching notification socket, .punched outcome => run.finish now notification socket outcome
  | .idle _, .dropped | .panicked, .dropped => run
  | _, .dropped => { run with stage := .idle none }
  | _, _ => run

end ClientRun

end RepriseP2p.Udp
