/-
This file models the endpoints and the certificate check of the QUIC set-up, and proves whose connections the wrapper
returns.
-/

import RepriseP2p.Udp.QuicExclusive

namespace RepriseP2p.Udp

variable {SigningKey DateTime Certificate : Type}

/-- What the wrapper uses of the crates for certificates. -/
structure CertificateCrates (SigningKey Certificate : Type) where
  /-- Signs a certificate for these names with its own key. -/
  selfSigned : SigningKey → List String → Option Certificate
  /-- The key in the certificate, when the certificate parses. -/
  subjectPublicKey : Certificate → Option (List UInt8)

/-- A certificate that a key signs for itself holds the public key. -/
def CertificateCrates.SubjectExact (certificates : CertificateCrates SigningKey Certificate)
    (crates : Crates SigningKey DateTime) : Prop :=
  ∀ key names cert, certificates.selfSigned key names = some cert →
    certificates.subjectPublicKey cert = some (crates.verifyingKey key).toList

section Endpoints

variable (crates : Crates SigningKey DateTime) (certificates : CertificateCrates SigningKey Certificate)

def quinnCertFromKey (signingKey : SigningKey) : Option Certificate :=
  certificates.selfSigned signingKey ["reprise-p2p"]

structure PeerPublicKeyVerifier where
  expectedPubkey : PublicKey
  deriving DecidableEq

namespace PeerPublicKeyVerifier

/-- The check of the other side's certificate. -/
def verifyCert (verifier : PeerPublicKeyVerifier) (endEntity : Certificate) : Except String Unit :=
  match certificates.subjectPublicKey endEntity with
  | none => .error "Failed to parse X.509 cert"
  | some peerPubkeyBytes =>
      if peerPubkeyBytes ≠ verifier.expectedPubkey.toList then .error "Peer public key mismatch!" else .ok ()

def verifyServerCert (verifier : PeerPublicKeyVerifier) (endEntity : Certificate) : Except String Unit :=
  verifier.verifyCert certificates endEntity

def verifyClientCert (verifier : PeerPublicKeyVerifier) (endEntity : Certificate) : Except String Unit :=
  verifier.verifyCert certificates endEntity

end PeerPublicKeyVerifier

/-- The settings of one role: the check of the other side's certificate, and the own certificate. -/
structure TlsConfig (Certificate : Type) where
  verifier : PeerPublicKeyVerifier
  cert : Certificate

/-- An endpoint accepts with its server settings. It connects with its client settings when it has some. -/
structure Endpoint (Certificate : Type) where
  server : TlsConfig Certificate
  client : Option (TlsConfig Certificate)

def tlsConfig (signingKey : SigningKey) (expectedPubkey : PublicKey) : Option (TlsConfig Certificate) :=
  (quinnCertFromKey certificates signingKey).bind fun cert =>
    if crates.validKey expectedPubkey then some ⟨⟨expectedPubkey⟩, cert⟩ else none

/-- The libraries take the settings and the socket, or they refuse them. -/
def makeQuinEndpoint (signingKey : SigningKey) (expectedPubkey : PublicKey) (taken : Bool) :
    Option (Endpoint Certificate) :=
  (tlsConfig crates certificates signingKey expectedPubkey).bind fun config =>
    if taken then some ⟨config, none⟩ else none

/-- The side that connects gives its endpoint the client settings. The libraries take them or refuse them. -/
def establishServerQuicConnection (ep : Endpoint Certificate) (signingKey : SigningKey) (remotePubkey : PublicKey)
    (taken : Bool) : Option (Endpoint Certificate) :=
  (tlsConfig crates certificates signingKey remotePubkey).bind fun config =>
    if taken then some { ep with client := some config } else none

/-- The handshake shows this certificate to the verifier of the role. The side that accepts asks for one, too. -/
def handshakeAccepts (signingKey : SigningKey) (conn : NewP2pConnection) (cert : Certificate) : Bool :=
  (makeQuinEndpoint crates certificates signingKey conn.pubkey true).any fun ep =>
    if conn.isListener then
      (establishServerQuicConnection crates certificates ep signingKey conn.pubkey true).any fun ep =>
        ep.client.any fun config => (config.verifier.verifyServerCert certificates cert).isOk
    else (ep.server.verifier.verifyClientCert certificates cert).isOk

end Endpoints

section Checks

variable {crates : Crates SigningKey DateTime} {certificates : CertificateCrates SigningKey Certificate}

/-- A verifier accepts exactly the certificates with the expected key. -/
theorem PeerPublicKeyVerifier.verifyCert_iff (verifier : PeerPublicKeyVerifier) (cert : Certificate) :
    (verifier.verifyCert certificates cert).isOk = true ↔
      certificates.subjectPublicKey cert = some verifier.expectedPubkey.toList := by
  unfold verifyCert
  split
  · rename_i unparsed
    simp [unparsed, Except.isOk, Except.toBool]
  · rename_i bytes parsed
    rw [parsed, Option.some.injEq]
    split_ifs with differ
    · simpa [Except.isOk, Except.toBool] using differ
    · simpa [Except.isOk, Except.toBool] using differ

/-- Both roles check the same. -/
theorem handshakeAccepts_iff {signingKey : SigningKey} {conn : NewP2pConnection}
    (made : (makeQuinEndpoint crates certificates signingKey conn.pubkey true).isSome = true) (cert : Certificate) :
    handshakeAccepts crates certificates signingKey conn cert = true ↔
      certificates.subjectPublicKey cert = some conn.pubkey.toList := by
  obtain ⟨ep, made⟩ := Option.isSome_iff_exists.mp made
  obtain ⟨config, settled, same⟩ := Option.bind_eq_some_iff.mp made
  cases same
  obtain ⟨own, signed, same⟩ := Option.bind_eq_some_iff.mp settled
  split_ifs at same with valid
  cases same
  rw [handshakeAccepts, made, Option.any_some]
  split_ifs
  · simp [establishServerQuicConnection, settled, PeerPublicKeyVerifier.verifyServerCert,
      PeerPublicKeyVerifier.verifyCert_iff]
  · simp [PeerPublicKeyVerifier.verifyClientCert, PeerPublicKeyVerifier.verifyCert_iff]

end Checks

/-- The set-up goes on when its endpoint is made, and the handshake ends well when the verifier of the role accepts the
certificate. The connection stands for the certificate that the other side showed. -/
def QuicRun.Certified (crates : Crates SigningKey DateTime)
    (certificates : CertificateCrates SigningKey Certificate) (run : QuicRun SigningKey DateTime Certificate)
    (event : Instant × QuicEvent DateTime Certificate) : Prop :=
  match run.stage, event.2 with
  | .making conn, .made true =>
      (makeQuinEndpoint crates certificates run.inner.establisher.key conn.pubkey true).isSome = true
  | .shaking conn, .shaken (some cert) =>
      handshakeAccepts crates certificates run.inner.establisher.key conn cert = true
  | _, _ => True

instance (crates : Crates SigningKey DateTime) (certificates : CertificateCrates SigningKey Certificate)
    (run : QuicRun SigningKey DateTime Certificate) (event : Instant × QuicEvent DateTime Certificate) :
    Decidable (run.Certified crates certificates event) := by
  unfold QuicRun.Certified
  split <;> infer_instance

/-- The wrapper with the endpoints and the handshakes that its certificates allow. -/
def certifiedMachine (crates : Crates SigningKey DateTime) (certificates : CertificateCrates SigningKey Certificate) :
    Machine (QuicRun SigningKey DateTime Certificate) (Instant × QuicEvent DateTime Certificate) where
  initial := (quicMachine crates).initial
  allowed run event := run.Certified crates certificates event
  next := (quicMachine crates).next

instance (crates : Crates SigningKey DateTime) (certificates : CertificateCrates SigningKey Certificate)
    (run : QuicRun SigningKey DateTime Certificate) (event : Instant × QuicEvent DateTime Certificate) :
    Decidable ((certifiedMachine crates certificates).allowed run event) :=
  inferInstanceAs (Decidable (run.Certified crates certificates event))

theorem quic_of_certified {crates : Crates SigningKey DateTime}
    {certificates : CertificateCrates SigningKey Certificate} {run : QuicRun SigningKey DateTime Certificate}
    (reachable : (certifiedMachine crates certificates).Reachable run) : (quicMachine crates).Reachable run := by
  apply reachable.invariant (quicMachine crates).Reachable
  · intro start initial
    exact .start initial
  · intro run event _ before _
    exact before.next trivial

/-- The client accepted the notification for which it swaps the socket or punches a hole. -/
def ClientRun.AttemptsAccepted (run : ClientRun SigningKey DateTime) : Prop :=
  ∀ notification, (run.stage = .swapping notification ∨ ∃ socket, run.stage = .punching notification socket) →
    .accepted notification ∈ run.acts

theorem ClientRun.AttemptsAccepted.step {crates : Crates SigningKey DateTime} {now : Instant}
    {run next : ClientRun SigningKey DateTime} {event : ClientEvent DateTime} (accepted : run.AttemptsAccepted)
    (taken : run.StepCase crates now event next) : next.AttemptsAccepted := by
  intro notification attempts
  cases taken with
  | ignored => exact accepted notification attempts
  | called result call idle taken =>
      obtain swapping | ⟨socket, punching⟩ := attempts
      · cases idle.symm.trans swapping
      · cases idle.symm.trans punching
  | requested establisher utcNow peerPubkeys payload sameRemotes sameKey sameServer trusted encoded =>
      simp at attempts
  | quiet establisher stage sameRemotes sameKey sameServer calm =>
      obtain swapping | ⟨socket, punching⟩ := attempts
      · exact absurd swapping (calm notification run.establisher.socket []).1
      · exact absurd punching (calm notification socket []).2.1
  | sent payload sending => simp at attempts
  | accepted bytes random other state receiving received parsed trusted enabled unseen =>
      obtain swapping | ⟨socket, punching⟩ := attempts
      · cases swapping
        simp [accept]
      · cases punching
  | swapped other socket random swapping =>
      obtain swapped | ⟨old, punching⟩ := attempts
      · cases swapped
      · cases punching
        exact accepted notification (.inl swapping)
  | finished other socket result change punching keeps => simp at attempts

theorem client_attemptsAccepted {crates : Crates SigningKey DateTime} {run : ClientRun SigningKey DateTime}
    (reachable : (clientMachine crates).Reachable run) : run.AttemptsAccepted := by
  apply reachable.invariant ClientRun.AttemptsAccepted
  · rintro start ⟨key, p2pServerAddr, sessionId, addr, socketInterface, curInterface, rfl⟩ notification
    simp [ClientRun.start]
  · intro run event _ accepted _
    exact accepted.step (run.step_case crates event.1 event.2)

/-- A returned hole was punched for a notification, and it has the role of the notification. -/
theorem ClientRun.returned_notification {crates : Crates SigningKey DateTime} {run : ClientRun SigningKey DateTime}
    {event : Instant × ClientEvent DateTime} {conn : NewP2pConnection} (busy : ∀ result, run.stage ≠ .idle result)
    (returned : (run.step crates event.1 event.2).stage = .idle (some (.ok conn))) :
    ∃ notification socket, run.stage = .punching notification socket ∧ notification.peerPubkey = conn.pubkey ∧
      notification.isListener = conn.isListener ∧ (run.step crates event.1 event.2).acts = run.acts := by
  have returns : run.Returns crates conn.pubkey event := ⟨busy, conn, returned, rfl⟩
  obtain ⟨notification, socket, addr, punching, about, happened⟩ := returns.punching
  rw [step_punched punching happened] at returned ⊢
  simp only [finish, Stage.idle.injEq, Option.some.injEq, Except.ok.injEq] at returned
  exact ⟨notification, socket, punching, about, returned ▸ rfl, rfl⟩

namespace QuicRun

/-- The set-up in progress is for a notification that the client accepted, in its role. -/
def Told (run : QuicRun SigningKey DateTime Certificate) : Prop :=
  ∀ conn, run.stage = .making conn ∨ run.stage = .shaking conn → ∃ notification,
    .accepted notification ∈ run.inner.acts ∧ notification.peerPubkey = conn.pubkey ∧
      notification.isListener = conn.isListener

/-- A handshake has an endpoint. -/
def EndpointMade (crates : Crates SigningKey DateTime) (certificates : CertificateCrates SigningKey Certificate)
    (run : QuicRun SigningKey DateTime Certificate) : Prop :=
  ∀ conn, run.stage = .shaking conn →
    (makeQuinEndpoint crates certificates run.inner.establisher.key conn.pubkey true).isSome = true

section Steps

variable {crates : Crates SigningKey DateTime} {certificates : CertificateCrates SigningKey Certificate}
  {run : QuicRun SigningKey DateTime Certificate} {event : Instant × QuicEvent DateTime Certificate}

theorem told_settle (sound : run.Sound crates) (polling : run.stage = .polling) (now : Instant)
    (taken : ClientEvent DateTime) :
    (settle (run.inner.step crates now taken) : QuicRun SigningKey DateTime Certificate).Told := by
  intro conn connected
  obtain ⟨notification, socket, punching, about, role, same⟩ := @ClientRun.returned_notification _ _ crates run.inner
    (now, taken) conn (sound.busy polling) (settle_connected connected)
  have accepted := client_attemptsAccepted sound.reachable notification (.inr ⟨socket, punching⟩)
  rw [settle_inner, same]
  exact ⟨notification, accepted, about, role⟩

theorem Told.step (told : run.Told) (sound : run.Sound crates) : (run.step crates event.1 event.2).Told := by
  have taken := run.step_case crates event
  generalize run.step crates event.1 event.2 = after at taken
  cases taken with
  | ignored => exact told
  | called result call idle =>
      intro conn connected
      simp [idle] at connected
  | started result interface utcNow idle =>
      intro conn connected
      exact absurd (settle_connected connected) (sound.started_busy ⟨result, idle⟩ event.1 interface utcNow _)
  | polled taken polling => exact told_settle sound polling event.1 taken
  | made conn making =>
      intro other shaking
      simp only [reduceCtorEq, QuicStage.shaking.injEq, false_or] at shaking
      exact shaking ▸ told conn (.inl making)
  | gaveUp conn error connected kept => simp [Told, giveUp]
  | _ => simp [Told]

/-- A handshake goes on, or it starts when the endpoint is made. -/
theorem shaking_of_step {conn : NewP2pConnection} (shaking : (run.step crates event.1 event.2).stage = .shaking conn) :
    (run.step crates event.1 event.2).inner = run.inner ∧
      (run.stage = .shaking conn ∨ run.stage = .making conn ∧ event.2 = .made true) := by
  have settled (inner : ClientRun SigningKey DateTime) :
      (settle inner : QuicRun SigningKey DateTime Certificate).stage ≠ .shaking conn := by
    intro shaking
    have returned := settle_connected (.inr shaking)
    simp [settle, returned] at shaking
  unfold QuicRun.step at shaking ⊢
  split at shaking
  · rename_i stage _
    simp [stage] at shaking
  · exact absurd shaking (settled _)
  · exact absurd shaking (settled _)
  · cases shaking
  · cases shaking
  · rename_i other making happened
    cases shaking
    exact ⟨by simp, .inr ⟨making, happened⟩⟩
  · cases shaking
  · cases shaking
  · cases shaking
  · cases shaking
  · cases shaking
  · exact ⟨by simp, .inl shaking⟩

theorem EndpointMade.step (made : run.EndpointMade crates certificates)
    (certified : run.Certified crates certificates event) :
    (run.step crates event.1 event.2).EndpointMade crates certificates := by
  intro conn shaking
  obtain ⟨same, before | ⟨making, happened⟩⟩ := shaking_of_step shaking
  · rw [same]
    exact made conn before
  · rw [same]
    simpa only [Certified, making, happened] using certified

theorem told_of_reachable (reachable : (quicMachine crates).Reachable run) : run.Told := by
  apply reachable.invariant Told
  · rintro start ⟨inner, initial, rfl⟩
    simp [Told]
  · intro run event before told _
    exact told.step (sound_of_reachable before)

theorem endpointMade_of_reachable (reachable : (certifiedMachine crates certificates).Reachable run) :
    run.EndpointMade crates certificates := by
  apply reachable.invariant (EndpointMade crates certificates)
  · rintro start ⟨inner, initial, rfl⟩
    simp [EndpointMade]
  · intro run event _ made certified
    exact made.step certified

/-- A QUIC connection is returned with the certificate of its handshake. -/
theorem Returns.shaken_event {peer : PublicKey} (returned : run.Returns crates peer event) :
    ∃ conn cert, run.stage = .shaking conn ∧ conn.pubkey = peer ∧ event.2 = .shaken (some cert) := by
  obtain ⟨conn, cert, shaking, about, after⟩ := returned.shaken
  refine ⟨conn, cert, shaking, about, ?_⟩
  have ended := congrArg QuicRun.stage after
  cases happened : event.2 with
  | shaken connection =>
      cases connection with
      | none => simp [QuicRun.step, giveUp, shaking, happened] at ended
      | some other =>
          simp only [QuicRun.step, shaking, happened, QuicStage.idle.injEq, Option.some.injEq, Except.ok.injEq,
            QuicP2pConnection.mk.injEq] at ended
          rw [ended.1]
  | _ => simp [QuicRun.step, shaking, happened] at ended

end Steps

end QuicRun

/-- In its handshake the wrapper accepts the certificate of a key exactly when the key is the one of the peer. The peer
of a connection that it returns showed a certificate with its key, is trusted, and was told by the server in the role
of the handshake. -/
theorem quic_authenticated (crates : Crates SigningKey DateTime)
    (certificates : CertificateCrates SigningKey Certificate) (exact : certificates.SubjectExact crates)
    {run : QuicRun SigningKey DateTime Certificate}
    (reachable : (certifiedMachine crates certificates).Reachable run) :
    (∀ conn other cert now, run.stage = .shaking conn → quinnCertFromKey certificates other = some cert →
      ((certifiedMachine crates certificates).allowed run (now, .shaken (some cert)) ↔
        crates.verifyingKey other = conn.pubkey)) ∧
    ∀ peer event, (certifiedMachine crates certificates).allowed run event → run.Returns crates peer event →
      ∃ conn cert, run.stage = .shaking conn ∧ event.2 = .shaken (some cert) ∧
        certificates.subjectPublicKey cert = some peer.toList ∧ peer ∈ run.inner.establisher.trustedRemotes ∧
        ∃ notification, .accepted notification ∈ run.inner.acts ∧ notification.peerPubkey = peer ∧
          notification.isListener = conn.isListener := by
  have made := QuicRun.endpointMade_of_reachable reachable
  have plain := quic_of_certified reachable
  constructor
  · intro conn other cert now shaking signed
    simp only [certifiedMachine, QuicRun.Certified, shaking]
    rw [handshakeAccepts_iff (made conn shaking), exact other _ cert signed, Option.some.injEq, Vector.toList_inj]
  · intro peer event certified returned
    obtain ⟨conn, cert, shaking, rfl, happened⟩ := returned.shaken_event
    refine ⟨conn, cert, shaking, happened, ?_, ?_, QuicRun.told_of_reachable plain conn (.inr shaking)⟩
    · simp only [certifiedMachine, QuicRun.Certified, shaking, happened] at certified
      exact (handshakeAccepts_iff (made conn shaking) cert).mp certified
    · obtain ⟨state, found, _⟩ := (QuicRun.setUpHeld_of_reachable plain conn (.inr shaking)).kind
      rw [Std.ExtTreeMap.mem_iff_isSome_getElem?, found]
      rfl

/-- Certificates that are the bytes of their keys. -/
def plainCertificates : CertificateCrates PublicKey (List UInt8) := ⟨fun key _ => some key.toList, some⟩

/-- Client 1 punches a hole to client 2, makes its endpoint, and shakes hands. -/
def sampleCertifiedEvents : List (Instant × QuicEvent UtcNanos (List UInt8)) :=
  (0, .call (.addTrustedRemote (sampleKey 2))) :: (0, .pollAccept none (sampleUtc 0)) ::
    ((sampleConnection.drop 2).map fun event => (event.1, .inner event.2)) ++ [(0, .made true)]

/-- Client 1 accepts the certificate of client 2, and not the one of client 3. -/
theorem quic_authenticated_sample :
    let machine := certifiedMachine plainCrates plainCertificates
    let run := sampleCertifiedEvents.foldl machine.next ⟨sampleClient 1 11, .idle none⟩
    machine.allowed run (0, .shaken (some (sampleKey 2).toList)) ∧
      ¬ machine.allowed run (0, .shaken (some (sampleKey 3).toList)) := by
  intro machine run
  have initial : machine.initial ⟨sampleClient 1 11, .idle none⟩ :=
    ⟨sampleClient 1 11, ⟨_, _, _, _, _, _, rfl⟩, rfl⟩
  have reachable : (certifiedMachine plainCrates plainCertificates).Reachable run :=
    Machine.Reachable.of_valid initial (by decide +kernel)
  have shaking : run.stage = .shaking ⟨sampleKey 2, .v4 (sampleAddr 2), ⟨sampleAddr 1, none⟩, true⟩ := by decide +kernel
  have exact : plainCertificates.SubjectExact plainCrates := by
    rintro key names cert signed
    cases signed
    rfl
  have accepts := (quic_authenticated plainCrates plainCertificates exact reachable).1
  exact ⟨(accepts _ (sampleKey 2) _ 0 shaking rfl).mpr rfl, mt (accepts _ (sampleKey 3) _ 0 shaking rfl).mp (by decide)⟩

end RepriseP2p.Udp
