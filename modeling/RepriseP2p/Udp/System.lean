/-
This file composes the server, any number of clients and the network between them.
-/

import RepriseP2p.Udp.ClientTrust
import RepriseP2p.Udp.ServerMatching
import RepriseP2p.Udp.ServerReply

namespace RepriseP2p.Udp

open LittleEndian

/-- The server and its clients. It keeps the datagrams that the server received, the notifications that each client
processed, by their place among the datagrams of the server, and the session ids that were drawn. -/
structure System (SigningKey DateTime : Type) (n : Nat) where
  clients : Fin n → ClientRun SigningKey DateTime
  server : ServerRun
  received : List (SocketAddrV4 × List UInt8)
  processed : List (Fin n × Nat)
  sessions : List UInt32
  clock : Instant

/-- A step of a client, the arrival of a datagram of the server at a client, or of any datagram at the server. -/
inductive SystemEvent (DateTime : Type) (n : Nat) where
  | client (index : Fin n) (event : ClientEvent DateTime)
  | notify (index : Fin n) (place : Nat) (random : UInt32)
  | serve (src : SocketAddrV4) (bytes : List UInt8) (utcNow : DateTime)

namespace System

variable {SigningKey DateTime : Type} {n : Nat} (crates : Crates SigningKey DateTime)

def start (clients : Fin n → ClientRun SigningKey DateTime) : System SigningKey DateTime n :=
  ⟨clients, .start, [], [], List.ofFn fun index => (clients index).establisher.sessionId, 0⟩

variable (system : System SigningKey DateTime n)

def pubkey (index : Fin n) : PublicKey := crates.verifyingKey (system.clients index).establisher.key

/-- The datagrams that the server sent, oldest first. -/
def emitted : List Datagram := system.server.handled.flatMap Handled.replies

/-- The server address of a client, as the source of a datagram. -/
def serverAddr (index : Fin n) : SocketAddr := .v4 (system.clients index).establisher.p2pServerAddr

/-- The system after one client took a step. -/
def advance (now : Instant) (index : Fin n) (event : ClientEvent DateTime) : System SigningKey DateTime n :=
  let client := (system.clients index).step crates now event
  let sessionId := client.establisher.sessionId
  { system with
    clients := Function.update system.clients index client
    sessions :=
      if sessionId = (system.clients index).establisher.sessionId then system.sessions
      else system.sessions ++ [sessionId]
    clock := now }

/-- The event of a client that receives this datagram of the server. -/
def arrival (index : Fin n) (datagram : Datagram) (random : UInt32) : ClientEvent DateTime :=
  .received (system.serverAddr index) datagram.message.toBytes random

def next (system : System SigningKey DateTime n) (event : Instant × SystemEvent DateTime n) :
    System SigningKey DateTime n :=
  let now := event.1
  match event.2 with
  | .client index event => system.advance crates now index event
  | .notify index place random =>
      match system.emitted[place]? with
      | none => system
      | some datagram =>
          { system.advance crates now index (system.arrival index datagram random) with
            processed := system.processed ++ [(index, place)] }
  | .serve src bytes utcNow =>
      { system with
        server :=
          match acceptDatagram crates src bytes utcNow now with
          | some request => system.server.receive request
          | none => system.server
        received := system.received ++ [(src, bytes)]
        clock := now }

/-- Nobody else sends from the address of the server, and the datagrams of the server reach only the current socket
with their destination. The client takes a datagram from its socket when it waits for one. -/
def delivers : SystemEvent DateTime n → Bool
  | .client index (.received src _ _) => src ≠ system.serverAddr index
  | .client _ _ => true
  | .notify index place _ =>
      (system.clients index).stage = .receiving &&
        system.emitted[place]?.any fun datagram => datagram.dst = (system.clients index).establisher.socket.addr
  | .serve _ _ _ => true

/-- A valid signature of a client's key is on a message that a holder of the key has signed. -/
def unforged (bytes : List UInt8) : Bool :=
  match ToServerRawMessage.tryParse crates bytes with
  | .ok (.signedMessage pubkey timestamp payload signature) =>
      let message := (ofI64 (crates.timestampMillis timestamp)).toList ++ payload
      decide ((∃ index, system.pubkey crates index = pubkey) → crates.verify pubkey message signature = true →
        ∃ index, system.pubkey crates index = pubkey ∧ message ∈ (system.clients index).signatures crates)
  | _ => true

/-- The network loses, repeats, delays and reorders the datagrams of the clients. -/
def honest : SystemEvent DateTime n → Bool
  | .serve src bytes _ => decide (∃ index, (src, bytes) ∈ (system.clients index).outbox)
  | _ => true

/-- The adversary sends any bytes from any address to the server. It forges no signature of a client. -/
def adversarial : SystemEvent DateTime n → Bool
  | .serve _ bytes _ => system.unforged crates bytes
  | _ => true

/-- A session id that a client draws was not drawn before. -/
def drawsFresh (event : Instant × SystemEvent DateTime n) : Bool :=
  let drawn := (system.next crates event).sessions.drop system.sessions.length
  drawn.all fun sessionId => sessionId ∉ system.sessions

end System

variable {SigningKey DateTime : Type} {n : Nat} (crates : Crates SigningKey DateTime)

/-- The system over a faulty network, while session ids never repeat. -/
def faultyMachine : Machine (System SigningKey DateTime n) (Instant × SystemEvent DateTime n) where
  initial system := ∃ clients, (∀ index, (clientMachine crates).initial (clients index)) ∧
    system = .start clients ∧ system.sessions.Nodup
  allowed system event := system.clock ≤ event.1 ∧ system.delivers event.2 = true ∧
    system.honest event.2 = true ∧ system.drawsFresh crates event = true
  next := System.next crates

/-- The system over a network that the adversary controls. -/
def adversaryMachine : Machine (System SigningKey DateTime n) (Instant × SystemEvent DateTime n) where
  initial system := ∃ clients, (∀ index, (clientMachine crates).initial (clients index)) ∧ system = .start clients
  allowed system event := system.clock ≤ event.1 ∧ system.delivers event.2 = true ∧
    system.adversarial crates event.2 = true
  next := System.next crates

instance (system : System SigningKey DateTime n) (event : Instant × SystemEvent DateTime n) :
    Decidable ((faultyMachine crates).allowed system event) :=
  inferInstanceAs (Decidable (_ ∧ _ ∧ _ ∧ _))

instance (system : System SigningKey DateTime n) (event : Instant × SystemEvent DateTime n) :
    Decidable ((adversaryMachine crates).allowed system event) :=
  inferInstanceAs (Decidable (_ ∧ _ ∧ _))

/-- New clients with the keys from 1 on and the sessions from 11 on. -/
def sampleSystem (n : Nat) : System PublicKey UtcNanos n :=
  .start fun index => sampleClient (UInt8.ofNat (index + 1)) (UInt32.ofNat (index + 11))

end RepriseP2p.Udp
