/-
This file traces every hole punch back to the signed requests behind it, over an adversarial network.
-/

import RepriseP2p.Udp.SignedRequest
import RepriseP2p.Udp.SystemStep

namespace RepriseP2p.Udp

variable {SigningKey DateTime : Type} {n : Nat} (crates : Crates SigningKey DateTime)

/-- A client that accepted a notification was told it on its socket, and it trusts the peer. -/
structure ClientRun.Informed (told : SocketAddrV4 → Notification → Prop) (run : ClientRun SigningKey DateTime) :
    Prop where
  swapping : ∀ notification, run.stage = .swapping notification →
    told run.establisher.socket.addr notification ∧ notification.peerPubkey ∈ run.establisher.trustedRemotes
  punching : ∀ notification socket, run.stage = .punching notification socket →
    told socket.addr notification ∧ notification.peerPubkey ∈ run.establisher.trustedRemotes

theorem ClientRun.Informed.of_calm {told : SocketAddrV4 → Notification → Prop} {run : ClientRun SigningKey DateTime}
    (calm : ∀ notification socket, run.stage ≠ .swapping notification ∧ run.stage ≠ .punching notification socket) :
    run.Informed told :=
  ⟨fun notification stage => absurd stage (calm notification run.establisher.socket).1,
    fun notification socket stage => absurd stage (calm notification socket).2⟩

/-- A client learns of peers only from the datagrams of the server. -/
theorem ClientRun.Informed.step {crates : Crates SigningKey DateTime} {told : SocketAddrV4 → Notification → Prop}
    {run next : ClientRun SigningKey DateTime} {now : Instant} {event : ClientEvent DateTime}
    (informed : run.Informed told) (taken : run.StepCase crates now event next)
    (arrived : ∀ bytes random notification, event = .received (.v4 run.establisher.p2pServerAddr) bytes random →
      FromServerMessage.tryParse bytes = .ok notification.message →
      told run.establisher.socket.addr notification) : next.Informed told := by
  cases taken with
  | ignored => exact informed
  | called result call idle taken => exact .of_calm fun _ _ => by simp [idle]
  | requested establisher utcNow peerPubkeys payload sameRemotes sameKey sameServer trusted encoded =>
      exact .of_calm fun _ _ => by simp
  | quiet establisher stage sameRemotes sameKey sameServer calm =>
      exact .of_calm fun notification socket => ⟨(calm notification socket []).1, (calm notification socket []).2.1⟩
  | sent payload sending => exact .of_calm fun _ _ => by simp
  | accepted bytes random notification state receiving received parsed trusted enabled unseen =>
      constructor
      · intro other stage
        cases stage
        exact ⟨arrived bytes random notification received parsed, by simp [ClientRun.accept]⟩
      · intro other socket stage
        cases stage
  | swapped notification socket random swapping =>
      constructor
      · intro other stage
        cases stage
      · intro other old stage
        cases stage
        exact informed.swapping notification swapping
  | finished notification socket result change punching keeps => exact .of_calm fun _ _ => by simp

theorem ClientRun.Informed.mono {told later : SocketAddrV4 → Notification → Prop}
    {run : ClientRun SigningKey DateTime} (informed : run.Informed told)
    (more : ∀ addr notification, told addr notification → later addr notification) : run.Informed later :=
  ⟨fun notification stage => (informed.swapping notification stage).imp_left (more _ _),
    fun notification socket stage => (informed.punching notification socket stage).imp_left (more _ _)⟩

/-- Only encodable requests are signed. -/
theorem ClientRun.StepCase.encodable {crates : Crates SigningKey DateTime} {run next : ClientRun SigningKey DateTime}
    {now : Instant} {event : ClientEvent DateTime} (taken : run.StepCase crates now event next)
    (earlier : ∀ timestamp message, .requested timestamp message ∈ run.acts → message.encodable = true)
    (timestamp : DateTime) (message : ToServerSignedMessage) (member : .requested timestamp message ∈ next.acts) :
    message.encodable = true := by
  rcases taken.mem_acts member with old | ⟨payload, encoded⟩
  · exact earlier timestamp message old
  · by_contra refused
    rw [ToServerSignedMessage.toBytes, if_pos (by simpa using refused)] at encoded
    cases encoded

namespace System

/-- The server received from this address a request that it parsed to these fields. -/
def Received (system : System SigningKey DateTime n) (addr : SocketAddrV4) (pubkey : PublicKey)
    (peerPubkeys : List PublicKey) (sessionId : UInt32) (timestamp : DateTime) : Prop :=
  ∃ bytes, (addr, bytes) ∈ system.received ∧ ToServerSignedMessage.tryParse crates bytes =
    .ok (.connectionRequest peerPubkeys sessionId, pubkey, timestamp)

/-- A client with this key signed this request through `toBytes` in this millisecond. -/
def Signed (system : System SigningKey DateTime n) (pubkey : PublicKey) (peerPubkeys : List PublicKey)
    (sessionId : UInt32) (timestamp : DateTime) : Prop :=
  ∃ index signedAt, system.pubkey crates index = pubkey ∧
    .requested signedAt (.connectionRequest peerPubkeys sessionId) ∈ (system.clients index).acts ∧
    crates.timestampMillis signedAt = crates.timestampMillis timestamp

/-- What holds in every reachable state of the system. -/
structure Traced (system : System SigningKey DateTime n) : Prop where
  serverReachable : serverMachine.Reachable system.server
  ordered : system.server.clock ≤ system.clock
  handledReceived : ∀ handled ∈ system.server.handled, ∃ timestamp,
    system.Received crates handled.request.addr handled.request.senderPubkey handled.request.peerPubkeys
      handled.request.sessionId timestamp
  encodable : ∀ index timestamp message, .requested timestamp message ∈ (system.clients index).acts →
    message.encodable = true
  receivedSigned : ∀ addr pubkey peerPubkeys sessionId timestamp,
    system.Received crates addr pubkey peerPubkeys sessionId timestamp →
    (∃ index, system.pubkey crates index = pubkey) → system.Signed crates pubkey peerPubkeys sessionId timestamp
  informed : ∀ index, (system.clients index).Informed fun addr notification =>
    ⟨addr, notification.message⟩ ∈ system.emitted

variable {crates}

/-- A later step keeps the signed requests. -/
theorem Signed.next {system : System SigningKey DateTime n} {event : Instant × SystemEvent DateTime n}
    (delivered : system.delivers event.2 = true) {pubkey : PublicKey} {peerPubkeys : List PublicKey}
    {sessionId : UInt32} {timestamp : DateTime} (signed : system.Signed crates pubkey peerPubkeys sessionId timestamp) :
    (system.next crates event).Signed crates pubkey peerPubkeys sessionId timestamp := by
  obtain ⟨index, signedAt, holder, member, millis⟩ := signed
  refine ⟨index, signedAt, ?_, (system.acts_next crates event delivered index).mem member, millis⟩
  rw [system.pubkey_next crates event delivered index, holder]

/-- A datagram that is not forged and names a client's key carries a request that a holder of the key signed. -/
theorem signed_of_unforged {system : System SigningKey DateTime n} {bytes : List UInt8}
    (unforged : system.unforged crates bytes = true)
    (encodable : ∀ index timestamp message, .requested timestamp message ∈ (system.clients index).acts →
      message.encodable = true)
    {pubkey : PublicKey} {peerPubkeys : List PublicKey} {sessionId : UInt32} {timestamp : DateTime}
    (parsed : ToServerSignedMessage.tryParse crates bytes =
      .ok (.connectionRequest peerPubkeys sessionId, pubkey, timestamp))
    (holder : ∃ index, system.pubkey crates index = pubkey) :
    system.Signed crates pubkey peerPubkeys sessionId timestamp := by
  obtain ⟨millis, signature, payload, layout, found, valid, verified, parsedPayload⟩ :=
    (ToServerSignedMessage.tryParse_ok_iff crates _ _ _ _).mp parsed
  have raw : ToServerRawMessage.tryParse crates bytes = .ok (.signedMessage pubkey timestamp payload signature) :=
    (ToServerRawMessage.tryParse_ok_iff crates _ _ _ _ _).mpr ⟨millis, layout, found⟩
  simp only [System.unforged, raw, decide_eq_true_eq] at unforged
  obtain ⟨index, same, member⟩ := unforged holder verified
  simp only [ClientRun.signatures, List.mem_filterMap] at member
  obtain ⟨act, acted, signedPart⟩ := member
  split at signedPart
  · rename_i signedAt message
    obtain ⟨sameMessage, sameMillis⟩ := SigningCall.signedPart_inj crates
      ⟨(system.clients index).establisher.key, message, signedAt⟩ _ timestamp payload
      (encodable index signedAt message acted) parsedPayload (Option.some.inj signedPart)
    cases sameMessage
    exact ⟨index, signedAt, same, acted, sameMillis⟩
  · cases signedPart

theorem traced_start {clients : Fin n → ClientRun SigningKey DateTime}
    (initial : ∀ index, (clientMachine crates).initial (clients index)) :
    (System.start clients).Traced crates where
  serverReachable := .start rfl
  ordered := Nat.le_refl _
  handledReceived := nofun
  encodable index timestamp message member := by
    obtain ⟨_, _, _, _, _, _, fresh⟩ := initial index
    change _ ∈ (clients index).acts at member
    rw [fresh] at member
    cases member
  receivedSigned := by
    rintro addr pubkey peerPubkeys sessionId timestamp ⟨bytes, member, _⟩
    cases member
  informed index := by
    obtain ⟨_, _, _, _, _, _, fresh⟩ := initial index
    refine .of_calm fun _ _ => ?_
    simp [System.start, fresh, ClientRun.start]

/-- A received datagram stays received. -/
theorem Received.next {system : System SigningKey DateTime n} (event : Instant × SystemEvent DateTime n)
    {addr : SocketAddrV4} {pubkey : PublicKey} {peerPubkeys : List PublicKey} {sessionId : UInt32}
    {timestamp : DateTime} (received : system.Received crates addr pubkey peerPubkeys sessionId timestamp) :
    (system.next crates event).Received crates addr pubkey peerPubkeys sessionId timestamp := by
  obtain ⟨bytes, member, parsed⟩ := received
  refine ⟨bytes, ?_, parsed⟩
  rcases system.next_received crates event with same | ⟨_, _, _, _, added⟩
  · rwa [same]
  · rw [added]
    exact List.mem_append_left _ member

/-- Every step that the adversary can cause keeps the requests traced. -/
theorem Traced.next {system : System SigningKey DateTime n} (traced : system.Traced crates)
    {event : Instant × SystemEvent DateTime n} (allowed : (adversaryMachine crates).allowed system event) :
    (system.next crates event).Traced crates := by
  obtain ⟨ordered, delivered, adversarial⟩ := allowed
  have clock := system.next_clock crates event ordered
  have taken (index : Fin n) := system.next_client crates event delivered index
  refine ⟨?_, ?_, ?_, ?_, ?_, ?_⟩
  · rcases system.next_server crates event with same | ⟨_, _, _, request, _, accepted, handled⟩
    · rw [same]
      exact traced.serverReachable
    · rw [handled]
      have now := (acceptDatagram_eq_some crates accepted).2.1
      exact traced.serverReachable.next (show system.server.clock ≤ request.now by
        rw [now]
        exact traced.ordered.trans ordered)
  · rcases system.next_server crates event with same | ⟨src, bytes, utcNow, request, serves, accepted, handled⟩
    · rw [same]
      exact traced.ordered.trans clock.1
    · obtain ⟨now, _⟩ := event
      cases serves
      rw [handled]
      exact Nat.le_of_eq (acceptDatagram_eq_some crates accepted).2.1
  · rcases system.next_server crates event with same | ⟨src, bytes, utcNow, request, serves, accepted, handled⟩
    · rw [same]
      exact fun item member => (traced.handledReceived item member).imp fun _ received => received.next event
    · rw [handled]
      intro item member
      rcases List.mem_append.mp member with old | last
      · exact (traced.handledReceived item old).imp fun _ received => received.next event
      · obtain ⟨now, _⟩ := event
        cases serves
        obtain ⟨addr, _, timestamp, parsed, _⟩ := acceptDatagram_eq_some crates accepted
        rw [List.mem_singleton.mp last]
        exact ⟨timestamp, bytes, by simp [System.next, addr], parsed⟩
  · intro index
    exact (taken index).choose_spec.1.encodable (traced.encodable index)
  · rintro addr pubkey peerPubkeys sessionId timestamp ⟨bytes, member, parsed⟩ holder
    simp only [system.pubkey_next crates event delivered] at holder
    have old (received : (addr, bytes) ∈ system.received) :=
      (traced.receivedSigned addr pubkey peerPubkeys sessionId timestamp ⟨bytes, received, parsed⟩ holder).next
        delivered
    rcases system.next_received crates event with same | ⟨src, datagram, utcNow, serves, added⟩
    · exact old (same ▸ member)
    · rw [added] at member
      rcases List.mem_append.mp member with before | last
      · exact old before
      · cases List.mem_singleton.mp last
        rw [serves] at adversarial
        exact (signed_of_unforged adversarial traced.encodable parsed holder).next delivered
  · intro index
    have more (addr : SocketAddrV4) (notification : Notification)
        (told : ⟨addr, notification.message⟩ ∈ system.emitted) :
        ⟨addr, notification.message⟩ ∈ (system.next crates event).emitted :=
      (system.emitted_next crates event).mem told
    obtain ⟨clientEvent, step, arrives⟩ := taken index
    refine (traced.informed index).mono more |>.step step ?_
    intro bytes random notification received parsed
    obtain ⟨place, _, datagram, _, found, dst, rfl⟩ := arrives bytes random received
    have whole := FromServerMessage.tryParse_toBytes datagram.message []
    rw [List.append_nil, parsed, Outcome.ok.injEq] at whole
    refine more _ _ ?_
    rw [← dst, whole]
    exact List.mem_of_getElem? found

theorem traced_of_reachable {system : System SigningKey DateTime n}
    (reachable : (adversaryMachine crates).Reachable system) : system.Traced crates := by
  refine reachable.invariant (fun system => system.Traced crates) ?_ fun _ _ _ traced allowed => traced.next allowed
  rintro system ⟨clients, initial, rfl⟩
  exact traced_start initial

variable (crates)

/-- The peer signed a request that lists this key, with the session of the notification, and the server received it
from the address of the notification. -/
def PeerConsents (system : System SigningKey DateTime n) (notification : Notification) (key : PublicKey) : Prop :=
  ∃ peerPubkeys timestamp, key ∈ peerPubkeys ∧
    system.Signed crates notification.peerPubkey peerPubkeys notification.remoteSessionId timestamp ∧
    system.Received crates notification.peerAddress notification.peerPubkey peerPubkeys
      notification.remoteSessionId timestamp

/-- A holder of the key signed a request that lists the peer. -/
def Consents (system : System SigningKey DateTime n) (key peer : PublicKey) : Prop :=
  ∃ peerPubkeys sessionId timestamp, peer ∈ peerPubkeys ∧ system.Signed crates key peerPubkeys sessionId timestamp

/-- A request of the key that lists the peer reached the server from this address. A client's key signed it. -/
def ConsentsFrom (system : System SigningKey DateTime n) (addr : SocketAddrV4) (key peer : PublicKey) : Prop :=
  ∃ peerPubkeys sessionId timestamp, peer ∈ peerPubkeys ∧
    system.Received crates addr key peerPubkeys sessionId timestamp ∧
    ((∃ holder, system.pubkey crates holder = key) → system.Signed crates key peerPubkeys sessionId timestamp)

/-- No request of another key reached the server from this address. -/
def OnlyFrom (system : System SigningKey DateTime n) (addr : SocketAddrV4) (key : PublicKey) : Prop :=
  ∀ other peerPubkeys sessionId timestamp,
    system.Received crates addr other peerPubkeys sessionId timestamp → other = key

end System

/-- A client punches a hole only to a trusted peer that consented to a key whose request came from the client's own
address. It is the client's own key when no other key's request came from there. -/
theorem punching_consent {system : System SigningKey DateTime n}
    (reachable : (adversaryMachine crates).Reachable system) (index : Fin n) (notification : Notification)
    (socket : UdpSocket) (punching : (system.clients index).stage = .punching notification socket)
    (peerHolder : ∃ holder, system.pubkey crates holder = notification.peerPubkey) :
    notification.peerPubkey ∈ (system.clients index).establisher.trustedRemotes ∧
    (∃ key, system.PeerConsents crates notification key ∧
      system.ConsentsFrom crates socket.addr key notification.peerPubkey) ∧
    (system.OnlyFrom crates socket.addr (system.pubkey crates index) →
      system.PeerConsents crates notification (system.pubkey crates index) ∧
        system.Consents crates (system.pubkey crates index) notification.peerPubkey) := by
  have traced := System.traced_of_reachable reachable
  obtain ⟨told, trusted⟩ := (traced.informed index).punching notification socket punching
  obtain ⟨handled, member, replied⟩ := List.mem_flatMap.mp told
  obtain ⟨own, ownHandled, other, otherHandled, ownAddr, listsPeer, sender, addr, session, listsOwn⟩ :=
    initiation_origin traced.serverReachable member replied
  obtain ⟨ownTime, ownReceived⟩ := traced.handledReceived own ownHandled
  obtain ⟨otherTime, otherReceived⟩ := traced.handledReceived other otherHandled
  rw [ownAddr] at ownReceived
  rw [sender, addr, session] at otherReceived
  have ownSigned := traced.receivedSigned _ _ _ _ _ ownReceived
  have peerConsents : system.PeerConsents crates notification own.request.senderPubkey :=
    ⟨_, otherTime, listsOwn, traced.receivedSigned _ _ _ _ _ otherReceived peerHolder, otherReceived⟩
  refine ⟨trusted, ⟨_, peerConsents, _, _, ownTime, listsPeer, ownReceived, ownSigned⟩, fun only => ?_⟩
  have same := only _ _ _ _ ownReceived
  rw [same] at peerConsents ownSigned
  exact ⟨peerConsents, _, _, ownTime, listsPeer, ownSigned ⟨index, rfl⟩⟩

/-- A client trusts a peer and places its request. -/
def sampleRequests (index : Fin 3) (peer : UInt8) : List (Instant × SystemEvent UtcNanos 3) :=
  [(0, .client index (.call (.addTrustedRemote (sampleKey peer)))),
    (0, .client index (.pollAccept none (sampleUtc 0))), (0, .client index .sent)]

/-- The clients 2 and 3 ask for each other. Client 1 asks for client 3, and then it trusts client 2. The adversary sends
the request of client 3 from the address of client 1. -/
def sampleReplay : List (Instant × SystemEvent UtcNanos 3) :=
  sampleRequests 0 3 ++ sampleRequests 1 3 ++ sampleRequests 2 2 ++
    [(0, .client 0 .timedOut), (0, .client 0 (.call (.addTrustedRemote (sampleKey 2)))),
      (0, .client 0 (.pollAccept none (sampleUtc 0))),
      (0, .serve (sampleAddr 2) (sampleDatagram 2 12 3 (sampleUtc 0)) (sampleUtc 0)),
      (0, .serve (sampleAddr 1) (sampleDatagram 3 13 2 (sampleUtc 0)) (sampleUtc 0)),
      (0, .notify 0 1 0), (0, .client 0 (.swapped none (sampleAddr 4) 14))]

def sampleReplayed : System PublicKey UtcNanos 3 :=
  sampleReplay.foldl (System.next plainCrates) (sampleSystem 3)

theorem sampleSystem_adversary : (adversaryMachine plainCrates).initial (sampleSystem 3) :=
  ⟨_, fun _ => ⟨_, _, _, _, _, _, rfl⟩, rfl⟩

/-- Client 1 punches a hole to client 2. No act names client 1, and client 1 names client 2 only in its acceptance. -/
theorem sampleReplayed_checked : (adversaryMachine plainCrates).valid (sampleSystem 3) sampleReplay = true ∧
    (sampleReplayed.clients 0).stage = .punching ⟨sampleKey 2, sampleAddr 2, 12, true⟩ ⟨sampleAddr 1, none⟩ ∧
    sampleReplayed.pubkey plainCrates 1 = sampleKey 2 ∧
    (∀ index : Fin 3, ∀ act ∈ (sampleReplayed.clients index).acts,
      ¬ act.Names (sampleReplayed.pubkey plainCrates 0)) ∧
    ∀ index : Fin 3, sampleReplayed.pubkey plainCrates index = sampleReplayed.pubkey plainCrates 0 →
      ∀ act ∈ (sampleReplayed.clients index).acts, act.Names (sampleKey 2) →
        act = .accepted ⟨sampleKey 2, sampleAddr 2, 12, true⟩ := by
  decide +kernel

theorem sampleReplayed_reachable : (adversaryMachine plainCrates).Reachable sampleReplayed :=
  .of_valid sampleSystem_adversary sampleReplayed_checked.1

/-- Client 1 punches a hole to client 2, which consented to the key of client 3. -/
theorem punching_consent_sample :
    ∃ key, sampleReplayed.PeerConsents plainCrates ⟨sampleKey 2, sampleAddr 2, 12, true⟩ key ∧
      sampleReplayed.ConsentsFrom plainCrates (sampleAddr 1) key (sampleKey 2) := by
  obtain ⟨_, punching, holder, _⟩ := sampleReplayed_checked
  exact (punching_consent _ sampleReplayed_reachable 0 _ _ punching ⟨1, holder⟩).2.1

/-- Client 1 punches a hole to client 2, and neither of them asked for the other. -/
theorem punching_consent_fails : (adversaryMachine plainCrates).Reachable sampleReplayed ∧
    (sampleReplayed.clients 0).stage = .punching ⟨sampleKey 2, sampleAddr 2, 12, true⟩ ⟨sampleAddr 1, none⟩ ∧
    sampleReplayed.pubkey plainCrates 1 = sampleKey 2 ∧
    ¬ sampleReplayed.PeerConsents plainCrates ⟨sampleKey 2, sampleAddr 2, 12, true⟩
      (sampleReplayed.pubkey plainCrates 0) ∧
    ¬ sampleReplayed.Consents plainCrates (sampleReplayed.pubkey plainCrates 0) (sampleKey 2) := by
  obtain ⟨_, punching, holder, nobody, accepts⟩ := sampleReplayed_checked
  refine ⟨sampleReplayed_reachable, punching, holder, ?_, ?_⟩
  · rintro ⟨peerPubkeys, _, listed, ⟨index, signedAt, _, member, _⟩, _⟩
    exact nobody index _ member listed
  · rintro ⟨peerPubkeys, sessionId, _, listed, index, signedAt, same, member, _⟩
    cases accepts index same _ member listed

end RepriseP2p.Udp
