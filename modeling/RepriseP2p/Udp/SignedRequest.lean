/-
This file proves the round trip of the signed request and its authenticity.
-/

import RepriseP2p.Udp.RequestGrammar

namespace RepriseP2p.Udp

open Outcome LittleEndian

variable {SigningKey DateTime : Type} (crates : Crates SigningKey DateTime)

/-- The encoder accepts the lists of one to ten keys. -/
theorem ToServerSignedMessage.encodable_iff (peerPubkeys : List PublicKey) (sessionId : UInt32) :
    (ToServerSignedMessage.connectionRequest peerPubkeys sessionId).encodable = true ↔
      1 ≤ peerPubkeys.length ∧ peerPubkeys.length ≤ 10 := by
  simp only [encodable, Bool.not_eq_true', Bool.or_eq_false_iff, decide_eq_false_iff_not,
    List.isEmpty_eq_false_iff, ← List.length_pos_iff]
  omega

/-- The parser reads back the payload of every encodable request. -/
theorem ToServerSignedMessage.parsePayload_payload (message : ToServerSignedMessage)
    (fits : message.encodable = true) :
    ToServerSignedMessage.parsePayload message.payload = .ok message := by
  obtain ⟨peerPubkeys, sessionId⟩ := message
  have bounds := (encodable_iff peerPubkeys sessionId).mp fits
  exact (ToServerSignedMessage.parsePayload_ok_iff _ peerPubkeys sessionId).mpr
    ⟨⟨[], by simp [payload, requestLayout]⟩, bounds⟩

/-- The datagram of an encodable request is its envelope. -/
theorem ToServerSignedMessage.toBytes_eq (key : SigningKey) (timestamp : DateTime)
    (message : ToServerSignedMessage) (fits : message.encodable = true) :
    message.toBytes crates key timestamp =
      .ok (envelope (ofI64 (crates.timestampMillis timestamp))
        (crates.sign key (message.signedPart crates timestamp)) (crates.verifyingKey key) message.payload) := by
  rw [toBytes, if_neg (by simp [fits])]
  simp [ToServerRawMessage.toBytes, envelope]

theorem Crates.fromTimestampMillis_truncated (representable : crates.MillisRepresentable) (time : DateTime) :
    crates.fromTimestampMillis (crates.timestampMillis time) = some (crates.truncated time) := by
  obtain ⟨whole, found⟩ := Option.isSome_iff_exists.mp (representable time)
  rw [truncated, found]
  rfl

/-- The parser reads every encodable request back from its datagram. -/
theorem ToServerSignedMessage.tryParse_toBytes (exact : crates.MillisExact)
    (representable : crates.MillisRepresentable) (verify : crates.SignaturesVerify) (key : SigningKey)
    (timestamp : DateTime) (message : ToServerSignedMessage) (fits : message.encodable = true)
    (bytes : List UInt8) (encoded : message.toBytes crates key timestamp = .ok bytes) :
    ToServerSignedMessage.tryParse crates bytes =
      .ok (message, crates.verifyingKey key, crates.truncated timestamp) := by
  have found := crates.fromTimestampMillis_truncated representable timestamp
  obtain ⟨valid, verified⟩ := verify key (message.signedPart crates timestamp)
  rw [message.toBytes_eq crates key timestamp fits] at encoded
  cases encoded
  rw [ToServerSignedMessage.tryParse_ok_iff]
  refine ⟨_, _, _, rfl, found, valid, ?_, message.parsePayload_payload fits⟩
  rw [exact _ _ found]
  exact verified

/-- Encoding and parsing return the request, the key of its signer and its truncated time. -/
theorem signedRequest_roundTrip (exact : crates.MillisExact) (representable : crates.MillisRepresentable)
    (verify : crates.SignaturesVerify) (key : SigningKey) (peerPubkeys : List PublicKey) (sessionId : UInt32)
    (now : DateTime) (bounds : 1 ≤ peerPubkeys.length ∧ peerPubkeys.length ≤ 10) :
    ∃ bytes, (ToServerSignedMessage.connectionRequest peerPubkeys sessionId).toBytes crates key now = .ok bytes ∧
      ToServerSignedMessage.tryParse crates bytes =
        .ok (.connectionRequest peerPubkeys sessionId, crates.verifyingKey key, crates.truncated now) ∧
      crates.timestampMillis (crates.truncated now) = crates.timestampMillis now := by
  have fits := (ToServerSignedMessage.encodable_iff peerPubkeys sessionId).mpr bounds
  have encoded := ToServerSignedMessage.toBytes_eq crates key now _ fits
  refine ⟨_, encoded, ?_, ?_⟩
  · exact ToServerSignedMessage.tryParse_toBytes crates exact representable verify key now _ fits _ encoded
  · exact exact _ _ (crates.fromTimestampMillis_truncated representable now)

/-- The round trip of a list with a repeated key, at a time before 1970. -/
theorem signedRequest_roundTrip_sample :
    ∃ bytes, (ToServerSignedMessage.connectionRequest [Vector.replicate 32 7, Vector.replicate 32 7] 5).toBytes
        (sampleCrates fun _ _ => true) (Vector.replicate 32 1) ⟨-1500001, by decide⟩ = .ok bytes ∧
      ToServerSignedMessage.tryParse (sampleCrates fun _ _ => true) bytes =
        .ok (.connectionRequest [Vector.replicate 32 7, Vector.replicate 32 7] 5, Vector.replicate 32 1,
          (sampleCrates fun _ _ => true).truncated ⟨-1500001, by decide⟩) ∧
      (sampleCrates fun _ _ => true).timestampMillis
          ((sampleCrates fun _ _ => true).truncated ⟨-1500001, by decide⟩) =
        (sampleCrates fun _ _ => true).timestampMillis ⟨-1500001, by decide⟩ :=
  signedRequest_roundTrip (sampleCrates fun _ _ => true) (sampleCrates_millisExact _)
    (sampleCrates_millisRepresentable _) sampleCrates_signaturesVerify (Vector.replicate 32 1)
    [Vector.replicate 32 7, Vector.replicate 32 7] 5 ⟨-1500001, by decide⟩ (by decide)

/-- One call of `toBytes` by a key holder. -/
structure SigningCall (SigningKey DateTime : Type) where
  key : SigningKey
  message : ToServerSignedMessage
  timestamp : DateTime

/-- The holder of a public key signs a message in this call. A refused list is never signed. -/
def SigningCall.Signs (call : SigningCall SigningKey DateTime) (pubkey : PublicKey) (message : List UInt8) : Prop :=
  crates.verifyingKey call.key = pubkey ∧ call.message.encodable = true ∧
    call.message.signedPart crates call.timestamp = message

/-- The bytes of a datagram under the signature. -/
def signedRegion (bytes : List UInt8) : List UInt8 := (bytes.drop 2).take 8 ++ bytes.drop 106

/-- The bytes of a datagram that hold the key. -/
def keyRegion (bytes : List UInt8) : List UInt8 := (bytes.drop 74).take 32

/-- The two regions of an envelope. -/
theorem signedRegion_envelope (millis : Vector UInt8 8) (signature : Signature) (pubkey : PublicKey)
    (payload : List UInt8) :
    signedRegion (envelope millis signature pubkey payload) = millis.toList ++ payload ∧
      keyRegion (envelope millis signature pubkey payload) = pubkey.toList := by
  have afterMillis : (millis.toList ++ (signature.toList ++ (pubkey.toList ++ payload))).drop 104 = payload := by
    simp [List.drop_append, List.drop_of_length_le]
  have afterSignature : (millis.toList ++ (signature.toList ++ (pubkey.toList ++ payload))).drop 72 =
      pubkey.toList ++ payload := by
    simp [List.drop_append, List.drop_of_length_le]
  constructor
  · simp [signedRegion, envelope, afterMillis]
  · simp [keyRegion, envelope, afterSignature]

/-- A signed part determines its request and its millisecond count. -/
theorem SigningCall.signedPart_inj (call : SigningCall SigningKey DateTime) (message : ToServerSignedMessage)
    (timestamp : DateTime) (payload : List UInt8) (fits : call.message.encodable = true)
    (parsed : ToServerSignedMessage.parsePayload payload = .ok message)
    (same : call.message.signedPart crates call.timestamp =
      (ofI64 (crates.timestampMillis timestamp)).toList ++ payload) :
    call.message = message ∧ crates.timestampMillis call.timestamp = crates.timestampMillis timestamp := by
  obtain ⟨sameMillis, samePayload⟩ := front_inj same
  have reparsed := call.message.parsePayload_payload fits
  rw [samePayload, parsed] at reparsed
  cases reparsed
  exact ⟨rfl, ofI64_injective sameMillis⟩

/-- An accepted datagram was signed by its key holder as exactly this request at exactly this millisecond,
and no byte outside the signed part and the key changes the result. -/
theorem signedRequest_authentic (signed : PublicKey → List UInt8 → Prop)
    (calls : List (SigningCall SigningKey DateTime))
    (ideal : ∀ pubkey message signature, crates.verify pubkey message signature = true → signed pubkey message)
    (onlyToBytes : ∀ pubkey message, signed pubkey message → ∃ call ∈ calls, call.Signs crates pubkey message) :
    (∀ bytes peerPubkeys sessionId pubkey timestamp,
      ToServerSignedMessage.tryParse crates bytes =
          .ok (.connectionRequest peerPubkeys sessionId, pubkey, timestamp) →
        ∃ call ∈ calls, crates.verifyingKey call.key = pubkey ∧
          call.message = .connectionRequest peerPubkeys sessionId ∧
          crates.timestampMillis call.timestamp = crates.timestampMillis timestamp) ∧
    ∀ first second firstResult secondResult,
      ToServerSignedMessage.tryParse crates first = .ok firstResult →
      ToServerSignedMessage.tryParse crates second = .ok secondResult →
      signedRegion first = signedRegion second → keyRegion first = keyRegion second →
      firstResult = secondResult := by
  constructor
  · intro bytes peerPubkeys sessionId pubkey timestamp accepted
    rw [ToServerSignedMessage.tryParse_ok_iff] at accepted
    obtain ⟨millis, signature, payload, _, _, _, verified, parsed⟩ := accepted
    obtain ⟨call, called, sameKey, fits, samePart⟩ :=
      onlyToBytes pubkey _ (ideal pubkey _ signature verified)
    obtain ⟨sameMessage, sameMillis⟩ := call.signedPart_inj crates _ timestamp payload fits parsed samePart
    exact ⟨call, called, sameKey, sameMessage, sameMillis⟩
  · rintro first second ⟨firstMessage, firstKey, firstTime⟩ ⟨secondMessage, secondKey, secondTime⟩
      firstAccepted secondAccepted sameSigned sameKey
    rw [ToServerSignedMessage.tryParse_ok_iff] at firstAccepted secondAccepted
    obtain ⟨firstMillis, firstSignature, firstPayload, rfl, firstFound, _, _, firstParsed⟩ := firstAccepted
    obtain ⟨secondMillis, secondSignature, secondPayload, rfl, secondFound, _, _, secondParsed⟩ := secondAccepted
    rw [(signedRegion_envelope _ _ _ _).1, (signedRegion_envelope _ _ _ _).1] at sameSigned
    rw [(signedRegion_envelope _ _ _ _).2, (signedRegion_envelope _ _ _ _).2] at sameKey
    obtain ⟨sameMillis, samePayload⟩ := front_inj sameSigned
    have sameMillis := ofI64_injective sameMillis
    subst sameMillis samePayload
    rw [firstFound] at secondFound
    rw [firstParsed] at secondParsed
    cases secondFound
    cases secondParsed
    rw [Vector.toList_inj.mp sameKey]

/-- The signed part does not depend on the known messages. -/
theorem signedPart_sampleCrates (known other : PublicKey → List UInt8 → Bool) (timestamp : UtcNanos)
    (message : ToServerSignedMessage) :
    message.signedPart (sampleCrates known) timestamp = message.signedPart (sampleCrates other) timestamp := by
  simp only [ToServerSignedMessage.signedPart, sampleCrates]

/-- One signed request of a key holder. -/
def sampleCall : SigningCall PublicKey UtcNanos :=
  ⟨Vector.replicate 32 1, .connectionRequest [Vector.replicate 32 7] 5, ⟨1500000000, by decide⟩⟩

/-- The only known signed message is the one of the sample call. -/
def sampleKnown (pubkey : PublicKey) (message : List UInt8) : Bool :=
  pubkey == sampleCall.key &&
    message == sampleCall.message.signedPart (sampleCrates fun _ _ => true) sampleCall.timestamp

theorem sampleKnown_signs (pubkey : PublicKey) (message : List UInt8) (known : sampleKnown pubkey message = true) :
    ∃ call ∈ [sampleCall], call.Signs (sampleCrates sampleKnown) pubkey message := by
  simp only [sampleKnown, Bool.and_eq_true, beq_iff_eq] at known
  refine ⟨sampleCall, List.mem_singleton_self _, known.1.symm, by decide, ?_⟩
  rw [signedPart_sampleCrates sampleKnown (fun _ _ => true)]
  exact known.2.symm

/-- The sample datagram is traced back to its call. -/
theorem signedRequest_authentic_sample :
    ∃ call ∈ [sampleCall], call.key = Vector.replicate 32 1 ∧
      call.message = .connectionRequest [Vector.replicate 32 7] 5 ∧
      (sampleCrates sampleKnown).timestampMillis call.timestamp = 1500 := by
  have accepted : ToServerSignedMessage.tryParse (sampleCrates sampleKnown)
      (envelope (ofI64 1500) ((sampleCrates sampleKnown).sign (Vector.replicate 32 1)
        (sampleCall.message.signedPart (sampleCrates sampleKnown) sampleCall.timestamp))
        (Vector.replicate 32 1) sampleCall.message.payload) =
      .ok (.connectionRequest [Vector.replicate 32 7] 5, Vector.replicate 32 1, ⟨1500000000, by decide⟩) := by
    decide +kernel
  obtain ⟨call, called, sameKey, sameMessage, sameMillis⟩ :=
    (signedRequest_authentic (sampleCrates sampleKnown) (fun pubkey message => sampleKnown pubkey message = true)
      [sampleCall] (sampleCrates_verify_known sampleKnown) sampleKnown_signs).1 _ _ _ _ _ accepted
  refine ⟨call, called, sameKey, sameMessage, ?_⟩
  rw [sameMillis]
  decide +kernel

end RepriseP2p.Udp
