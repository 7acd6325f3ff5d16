/-
This file gives the grammar of the signed request and proves that the parser accepts exactly it.
-/

import RepriseP2p.Udp.Messages

namespace RepriseP2p.Udp

open Outcome LittleEndian

variable {SigningKey DateTime : Type} (crates : Crates SigningKey DateTime)

/-- The byte layout of the envelope. -/
def envelope (millis : Vector UInt8 8) (signature : Signature) (pubkey : PublicKey) (payload : List UInt8) :
    List UInt8 :=
  1 :: protocolVersion :: (millis.toList ++ (signature.toList ++ (pubkey.toList ++ payload)))

/-- The byte layout of a connection request, with tolerated trailing bytes. -/
def requestLayout (sessionId : UInt32) (peerPubkeys : List PublicKey) (trailing : List UInt8) : List UInt8 :=
  1 :: ((ofU32 sessionId).toList ++ (UInt8.ofNat peerPubkeys.length :: (peerPubkeys.flatMap Vector.toList ++ trailing)))

/-- The envelope parser reads its four fields behind any two leading bytes. -/
theorem ToServerRawMessage.tryParse_fields (msgId remoteVer : UInt8) (millis : Vector UInt8 8)
    (signature : Signature) (pubkey : PublicKey) (payload : List UInt8) :
    ToServerRawMessage.tryParse crates
        (msgId :: remoteVer :: (millis.toList ++ (signature.toList ++ (pubkey.toList ++ payload)))) =
      if remoteVer ≠ protocolVersion then .err (.unsupportedVersion protocolVersion remoteVer)
      else if msgId = 1 then
        (okOr (crates.fromTimestampMillis (toI64 millis)) ParseError.invalidTimestamp >>= fun timestamp =>
          .ok (.signedMessage pubkey timestamp payload signature))
      else .err (.invalidMessageId msgId) := by
  have long : ¬ (millis.toList ++ (signature.toList ++ (pubkey.toList ++ payload))).length < 8 + 64 + 32 := by
    simp; omega
  have whole : ¬ (msgId :: remoteVer ::
      (millis.toList ++ (signature.toList ++ (pubkey.toList ++ payload)))).length < 3 := by
    simp; omega
  have tail : (sliceFrom (msgId :: remoteVer ::
      (millis.toList ++ (signature.toList ++ (pubkey.toList ++ payload)))) 2 : Outcome ParseError _) =
      .ok (millis.toList ++ (signature.toList ++ (pubkey.toList ++ payload))) := by
    simp [sliceFrom]
  rw [ToServerRawMessage.tryParse, if_neg whole]
  simp only [index_cons_zero, index_cons_succ, ok_bind, tail, if_neg long, sliceTo_append, sliceFrom_append,
    toArray_toList, pure_eq]

/-- A datagram shorter than the fixed fields is refused. -/
theorem ToServerRawMessage.tryParse_short (bytes : List UInt8) (short : bytes.length < 2 + 8 + 64 + 32) :
    ∃ error, ToServerRawMessage.tryParse crates bytes = .err error := by
  match bytes with
  | [] | [_] | [_, _] => exact ⟨.tooShort, rfl⟩
  | msgId :: remoteVer :: third :: rest =>
      have tailShort : (third :: rest).length < 8 + 64 + 32 := by
        simp only [List.length_cons] at short ⊢; omega
      have whole : ¬ (msgId :: remoteVer :: third :: rest).length < 3 := by simp
      have tail : (sliceFrom (msgId :: remoteVer :: third :: rest) 2 : Outcome ParseError _) =
          .ok (third :: rest) := by simp [sliceFrom]
      rw [ToServerRawMessage.tryParse, if_neg whole]
      simp only [index_cons_zero, index_cons_succ, ok_bind, tail, if_pos tailShort]
      split_ifs
      · exact ⟨_, rfl⟩
      · exact ⟨_, rfl⟩
      · exact ⟨_, rfl⟩

/-- A datagram with all fixed fields splits into them. -/
theorem exists_fields (bytes : List UInt8) (long : 2 + 8 + 64 + 32 ≤ bytes.length) :
    ∃ (msgId remoteVer : UInt8) (millis : Vector UInt8 8) (signature : Signature) (pubkey : PublicKey)
      (payload : List UInt8),
      bytes = msgId :: remoteVer :: (millis.toList ++ (signature.toList ++ (pubkey.toList ++ payload))) := by
  match bytes, long with
  | msgId :: remoteVer :: rest, long =>
      simp only [List.length_cons] at long
      obtain ⟨millis, afterMillis, rfl⟩ := exists_front 8 rest (by omega)
      simp only [List.length_append, Vector.length_toList] at long
      obtain ⟨signature, afterSignature, rfl⟩ := exists_front 64 afterMillis (by omega)
      simp only [List.length_append, Vector.length_toList] at long
      obtain ⟨pubkey, payload, rfl⟩ := exists_front 32 afterSignature (by omega)
      exact ⟨msgId, remoteVer, millis, signature, pubkey, payload, rfl⟩

/-- The envelope parser accepts exactly the envelope with a representable millisecond count. -/
theorem ToServerRawMessage.tryParse_ok_iff (bytes : List UInt8) (pubkey : PublicKey) (timestamp : DateTime)
    (payload : List UInt8) (signature : Signature) :
    ToServerRawMessage.tryParse crates bytes = .ok (.signedMessage pubkey timestamp payload signature) ↔
      ∃ millis, bytes = envelope (ofI64 millis) signature pubkey payload ∧
        crates.fromTimestampMillis millis = some timestamp := by
  constructor
  · intro accepted
    by_cases short : bytes.length < 2 + 8 + 64 + 32
    · obtain ⟨error, refused⟩ := ToServerRawMessage.tryParse_short crates bytes short
      rw [refused] at accepted
      cases accepted
    · obtain ⟨msgId, remoteVer, millis, bytesSignature, bytesPubkey, bytesPayload, rfl⟩ :=
        exists_fields bytes (Nat.le_of_not_lt short)
      rw [ToServerRawMessage.tryParse_fields] at accepted
      split_ifs at accepted with version id
      cases found : crates.fromTimestampMillis (toI64 millis) with
      | none =>
          rw [found] at accepted
          cases accepted
      | some time =>
          rw [found] at accepted
          cases accepted
          refine ⟨toI64 millis, ?_, found⟩
          rw [envelope, ofI64_toI64, id, not_not.mp version]
  · rintro ⟨millis, rfl, found⟩
    rw [envelope, ToServerRawMessage.tryParse_fields, toI64_ofI64, found]
    rfl

theorem ToServerRawMessage.tryParse_ne_panic (bytes : List UInt8) :
    ToServerRawMessage.tryParse crates bytes ≠ .panic := by
  by_cases short : bytes.length < 2 + 8 + 64 + 32
  · obtain ⟨error, refused⟩ := ToServerRawMessage.tryParse_short crates bytes short
    rw [refused]
    simp
  · obtain ⟨msgId, remoteVer, millis, signature, pubkey, payload, rfl⟩ :=
      exists_fields bytes (Nat.le_of_not_lt short)
    rw [ToServerRawMessage.tryParse_fields]
    cases crates.fromTimestampMillis (toI64 millis) <;> split_ifs <;> simp

/-- The loop reads back the keys that it was given. -/
theorem readPeerPubkeys_flatMap (keys : List PublicKey) (trailing : List UInt8) (earlier : List PublicKey) :
    readPeerPubkeys keys.length (keys.flatMap Vector.toList ++ trailing) earlier = .ok (earlier ++ keys) := by
  induction keys generalizing earlier with
  | nil => simp [readPeerPubkeys]
  | cons key keys ih =>
      simp only [List.length_cons, readPeerPubkeys, List.flatMap_cons, List.append_assoc, sliceTo_append,
        sliceFrom_append, toArray_toList, ok_bind]
      rw [ih, List.append_assoc]
      rfl

/-- A payload with enough bytes begins with the announced number of keys. -/
theorem exists_keys (count : Nat) (payload : List UInt8) (enough : 32 * count ≤ payload.length) :
    ∃ (keys : List PublicKey) (trailing : List UInt8),
      keys.length = count ∧ payload = keys.flatMap Vector.toList ++ trailing := by
  induction count generalizing payload with
  | zero => exact ⟨[], payload, rfl, rfl⟩
  | succ count ih =>
      obtain ⟨key, rest, rfl⟩ := exists_front 32 payload (by omega)
      simp only [List.length_append, Vector.length_toList] at enough
      obtain ⟨keys, trailing, size, rfl⟩ := ih rest (by omega)
      exact ⟨key :: keys, trailing, by simp [size], by simp⟩

/-- The payload parser behind a session id and a key count. -/
theorem ToServerSignedMessage.parsePayload_fields (msgId count : UInt8) (sessionId : Vector UInt8 4)
    (rest : List UInt8) :
    ToServerSignedMessage.parsePayload (msgId :: (sessionId.toList ++ (count :: rest))) =
      if msgId = 1 then
        if count.toNat > 10 ∨ count.toNat = 0 then .err .invalidContentFormat
        else if rest.length < 32 * count.toNat then .err .invalidContentFormat
        else readPeerPubkeys count.toNat rest [] >>= fun peerPubkeys =>
          .ok (.connectionRequest peerPubkeys (toU32 sessionId))
      else .err (.invalidMessageId msgId) := by
  have nonempty : ¬ (msgId :: (sessionId.toList ++ (count :: rest))).length = 0 := by simp
  have long : ¬ (sessionId.toList ++ (count :: rest)).length < 4 + 1 := by
    simp; omega
  have tail : (sliceFrom (msgId :: (sessionId.toList ++ (count :: rest))) 1 : Outcome ParseError _) =
      .ok (sessionId.toList ++ (count :: rest)) := by simp [sliceFrom]
  have behind : (sliceFrom (count :: rest) 1 : Outcome ParseError _) = .ok rest := by simp [sliceFrom]
  rw [ToServerSignedMessage.parsePayload, if_neg nonempty]
  simp only [index_cons_zero, ok_bind, tail, if_neg long, sliceTo_append, sliceFrom_append, toArray_toList,
    behind, pure_eq]

theorem ToServerSignedMessage.parsePayload_short (payload : List UInt8) (short : payload.length < 1 + 4 + 1) :
    ∃ error, ToServerSignedMessage.parsePayload payload = .err error := by
  match payload with
  | [] => exact ⟨.tooShort, rfl⟩
  | msgId :: rest =>
      have restShort : rest.length < 4 + 1 := by
        simp only [List.length_cons] at short; omega
      have nonempty : ¬ (msgId :: rest).length = 0 := by simp
      have tail : (sliceFrom (msgId :: rest) 1 : Outcome ParseError _) = .ok rest := by simp [sliceFrom]
      rw [ToServerSignedMessage.parsePayload, if_neg nonempty]
      simp only [index_cons_zero, ok_bind, tail, if_pos restShort]
      split_ifs
      · exact ⟨_, rfl⟩
      · exact ⟨_, rfl⟩

theorem exists_payload_fields (payload : List UInt8) (long : 1 + 4 + 1 ≤ payload.length) :
    ∃ (msgId count : UInt8) (sessionId : Vector UInt8 4) (rest : List UInt8),
      payload = msgId :: (sessionId.toList ++ (count :: rest)) := by
  match payload, long with
  | msgId :: tail, long =>
      simp only [List.length_cons] at long
      obtain ⟨sessionId, counted, rfl⟩ := exists_front 4 tail (by omega)
      simp only [List.length_append, Vector.length_toList] at long
      match counted, long with
      | count :: rest, _ => exact ⟨msgId, count, sessionId, rest, rfl⟩

/-- The payload parser accepts exactly the layout with one to ten keys. -/
theorem ToServerSignedMessage.parsePayload_ok_iff (payload : List UInt8) (peerPubkeys : List PublicKey)
    (sessionId : UInt32) :
    ToServerSignedMessage.parsePayload payload = .ok (.connectionRequest peerPubkeys sessionId) ↔
      (∃ trailing, payload = requestLayout sessionId peerPubkeys trailing) ∧
        1 ≤ peerPubkeys.length ∧ peerPubkeys.length ≤ 10 := by
  constructor
  · intro accepted
    by_cases short : payload.length < 1 + 4 + 1
    · obtain ⟨error, refused⟩ := ToServerSignedMessage.parsePayload_short payload short
      rw [refused] at accepted
      cases accepted
    · obtain ⟨msgId, count, session, rest, rfl⟩ := exists_payload_fields payload (Nat.le_of_not_lt short)
      rw [ToServerSignedMessage.parsePayload_fields] at accepted
      split_ifs at accepted with id bounds fits
      obtain ⟨keys, trailing, size, rfl⟩ := exists_keys count.toNat rest (Nat.le_of_not_lt fits)
      rw [← size, readPeerPubkeys_flatMap, ok_bind, List.nil_append] at accepted
      cases accepted
      refine ⟨⟨trailing, ?_⟩, by omega, by omega⟩
      rw [requestLayout, id, ofU32_toU32, size, UInt8.ofNat_toNat]
  · rintro ⟨⟨trailing, rfl⟩, nonempty, bounded⟩
    have count : (UInt8.ofNat peerPubkeys.length).toNat = peerPubkeys.length := by
      rw [UInt8.toNat_ofNat', Nat.mod_eq_of_lt (by omega)]
    have bytes : 32 * peerPubkeys.length ≤ (peerPubkeys.flatMap Vector.toList ++ trailing).length := by
      simp [List.length_flatMap, Nat.mul_comm]
    rw [requestLayout, ToServerSignedMessage.parsePayload_fields, if_pos rfl, count, if_neg (by omega),
      if_neg (by omega), readPeerPubkeys_flatMap, ok_bind, toU32_ofU32, List.nil_append]

theorem ToServerSignedMessage.parsePayload_ne_panic (payload : List UInt8) :
    ToServerSignedMessage.parsePayload payload ≠ .panic := by
  by_cases short : payload.length < 1 + 4 + 1
  · obtain ⟨error, refused⟩ := ToServerSignedMessage.parsePayload_short payload short
    rw [refused]
    simp
  · obtain ⟨msgId, count, session, rest, rfl⟩ := exists_payload_fields payload (Nat.le_of_not_lt short)
    rw [ToServerSignedMessage.parsePayload_fields]
    split_ifs with id bounds fits
    · simp
    · simp
    · obtain ⟨keys, trailing, size, rfl⟩ := exists_keys count.toNat rest (Nat.le_of_not_lt fits)
      rw [← size, readPeerPubkeys_flatMap]
      simp
    · simp

/-- Acceptance means an envelope, a verified signature and an accepted payload. -/
theorem ToServerSignedMessage.tryParse_ok_iff (bytes : List UInt8) (message : ToServerSignedMessage)
    (pubkey : PublicKey) (timestamp : DateTime) :
    ToServerSignedMessage.tryParse crates bytes = .ok (message, pubkey, timestamp) ↔
      ∃ millis signature payload, bytes = envelope (ofI64 millis) signature pubkey payload ∧
        crates.fromTimestampMillis millis = some timestamp ∧ crates.validKey pubkey = true ∧
        crates.verify pubkey ((ofI64 (crates.timestampMillis timestamp)).toList ++ payload) signature = true ∧
        ToServerSignedMessage.parsePayload payload = .ok message := by
  constructor
  · intro accepted
    rw [ToServerSignedMessage.tryParse] at accepted
    match raw : ToServerRawMessage.tryParse crates bytes with
    | .err error =>
        rw [raw] at accepted
        cases accepted
    | .panic =>
        rw [raw] at accepted
        cases accepted
    | .ok (.signedMessage rawPubkey rawTimestamp payload signature) =>
        rw [raw, ok_bind] at accepted
        dsimp only at accepted
        split_ifs at accepted with valid verified
        match parsed : ToServerSignedMessage.parsePayload payload with
        | .err error =>
            rw [parsed] at accepted
            cases accepted
        | .panic =>
            rw [parsed] at accepted
            cases accepted
        | .ok content =>
            rw [parsed] at accepted
            cases accepted
            obtain ⟨millis, layout, found⟩ :=
              (ToServerRawMessage.tryParse_ok_iff crates bytes pubkey timestamp payload signature).mp raw
            exact ⟨millis, signature, payload, layout, found, by simpa using valid, by simpa using verified, parsed⟩
  · rintro ⟨millis, signature, payload, layout, found, valid, verified, parsed⟩
    have raw := (ToServerRawMessage.tryParse_ok_iff crates bytes pubkey timestamp payload signature).mpr
      ⟨millis, layout, found⟩
    rw [ToServerSignedMessage.tryParse, raw, ok_bind]
    dsimp only
    rw [if_neg (by simp [valid]), if_neg (by simp [verified]), parsed]
    rfl

theorem ToServerSignedMessage.tryParse_ne_panic (bytes : List UInt8) :
    ToServerSignedMessage.tryParse crates bytes ≠ .panic := by
  rw [ToServerSignedMessage.tryParse]
  match raw : ToServerRawMessage.tryParse crates bytes with
  | .err error => simp
  | .panic => exact absurd raw (ToServerRawMessage.tryParse_ne_panic crates bytes)
  | .ok (.signedMessage pubkey timestamp payload signature) =>
      rw [ok_bind]
      dsimp only
      split_ifs
      · simp
      · simp
      · match parsed : ToServerSignedMessage.parsePayload payload with
        | .err error => simp
        | .panic => exact absurd parsed (ToServerSignedMessage.parsePayload_ne_panic payload)
        | .ok content => simp

/-- The signed request with its listed keys, session id, sender and time. -/
def SignedRequestGrammar (bytes : List UInt8) (peerPubkeys : List PublicKey) (sessionId : UInt32)
    (pubkey : PublicKey) (timestamp : DateTime) : Prop :=
  ∃ (millis : Int64) (signature : Signature) (payload trailing : List UInt8),
    bytes = [1, 2] ++ (ofI64 millis).toList ++ signature.toList ++ pubkey.toList ++ payload ∧
    crates.fromTimestampMillis millis = some timestamp ∧
    crates.validKey pubkey = true ∧
    crates.verify pubkey ((ofI64 millis).toList ++ payload) signature = true ∧
    payload = [1] ++ (ofU32 sessionId).toList ++ [UInt8.ofNat peerPubkeys.length] ++
      peerPubkeys.flatMap Vector.toList ++ trailing ∧
    1 ≤ peerPubkeys.length ∧ peerPubkeys.length ≤ 10

/-- The parser never panics, and it accepts exactly the grammar of the signed request. -/
theorem signedRequest_tryParse_exact (exact : crates.MillisExact) :
    (∀ bytes, ToServerSignedMessage.tryParse crates bytes ≠ .panic) ∧
    ∀ bytes peerPubkeys sessionId pubkey timestamp,
      ToServerSignedMessage.tryParse crates bytes =
          .ok (.connectionRequest peerPubkeys sessionId, pubkey, timestamp) ↔
        SignedRequestGrammar crates bytes peerPubkeys sessionId pubkey timestamp := by
  refine ⟨ToServerSignedMessage.tryParse_ne_panic crates, ?_⟩
  intro bytes peerPubkeys sessionId pubkey timestamp
  rw [ToServerSignedMessage.tryParse_ok_iff]
  constructor
  · rintro ⟨millis, signature, payload, rfl, found, valid, verified, parsed⟩
    obtain ⟨⟨trailing, layout⟩, bounds⟩ :=
      (ToServerSignedMessage.parsePayload_ok_iff payload peerPubkeys sessionId).mp parsed
    rw [exact millis timestamp found] at verified
    refine ⟨millis, signature, payload, trailing, ?_, found, valid, verified, ?_, bounds⟩
    · simp [envelope, protocolVersion]
    · simp [layout, requestLayout]
  · rintro ⟨millis, signature, payload, trailing, rfl, found, valid, verified, layout, bounds⟩
    have parsed := (ToServerSignedMessage.parsePayload_ok_iff payload peerPubkeys sessionId).mpr
      ⟨⟨trailing, by simp [layout, requestLayout]⟩, bounds⟩
    refine ⟨millis, signature, payload, ?_, found, valid, ?_, parsed⟩
    · simp [envelope, protocolVersion]
    · rw [exact millis timestamp found]
      exact verified

/-- A request with one trailing byte behind its only key lies in the grammar. -/
theorem signedRequest_tryParse_exact_sample :
    SignedRequestGrammar (sampleCrates fun _ _ => true)
      (envelope (ofI64 1500) ((sampleCrates fun _ _ => true).sign (Vector.replicate 32 1)
        ((ofI64 1500).toList ++ requestLayout 5 [Vector.replicate 32 7] [9])) (Vector.replicate 32 1)
        (requestLayout 5 [Vector.replicate 32 7] [9]))
      [Vector.replicate 32 7] 5 (Vector.replicate 32 1) ⟨1500000000, by decide⟩ := by
  have parser := (signedRequest_tryParse_exact (sampleCrates fun _ _ => true) (sampleCrates_millisExact _)).2
  exact (parser _ _ _ _ _).mp (by decide +kernel)

end RepriseP2p.Udp
