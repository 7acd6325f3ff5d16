/-
This file models the datagrams between the UDP clients and the helper server.
-/

import RepriseP2p.Foundation.LittleEndian
import RepriseP2p.Foundation.Outcome
import RepriseP2p.Foundation.SocketAddr

namespace RepriseP2p.Udp

open Outcome LittleEndian

abbrev PublicKey := Vector UInt8 32
abbrev Signature := Vector UInt8 64

instance : Std.TransOrd PublicKey := inferInstance

def protocolVersion : UInt8 := 2

inductive ParseError where
  | invalidMessageId (id : UInt8)
  | unsupportedVersion (cur remote : UInt8)
  | tooShort
  | invalidTimestamp
  | invalidContentFormat
  | invalidSignature
  deriving DecidableEq

/-- The functions that the messages use of `ed25519_dalek` and `chrono`. -/
structure Crates (SigningKey DateTime : Type) where
  /-- The bytes of `key.verifying_key()`. -/
  verifyingKey : SigningKey → PublicKey
  sign : SigningKey → List UInt8 → Signature
  /-- `VerifyingKey::from_bytes` accepts these bytes. -/
  validKey : PublicKey → Bool
  verify : PublicKey → List UInt8 → Signature → Bool
  fromTimestampMillis : Int64 → Option DateTime
  timestampMillis : DateTime → Int64
  /-- The whole seconds from the second time to the first, `(now - tm).num_seconds()`. -/
  numSeconds : DateTime → DateTime → Int

variable {SigningKey DateTime : Type}

/-- Decoding a millisecond count and counting again gives the same count. -/
def Crates.MillisExact (crates : Crates SigningKey DateTime) : Prop :=
  ∀ millis time, crates.fromTimestampMillis millis = some time → crates.timestampMillis time = millis

/-- Every time has a representable millisecond count. -/
def Crates.MillisRepresentable (crates : Crates SigningKey DateTime) : Prop :=
  ∀ time, (crates.fromTimestampMillis (crates.timestampMillis time)).isSome

/-- A signature verifies under the public key of its signer, and that key decodes. -/
def Crates.SignaturesVerify (crates : Crates SigningKey DateTime) : Prop :=
  ∀ key message, crates.validKey (crates.verifyingKey key) = true ∧
    crates.verify (crates.verifyingKey key) message (crates.sign key message) = true

/-- The time truncated to its millisecond count. -/
def Crates.truncated (crates : Crates SigningKey DateTime) (time : DateTime) : DateTime :=
  (crates.fromTimestampMillis (crates.timestampMillis time)).getD time

/-- The envelope of a signed message. -/
inductive ToServerRawMessage (DateTime : Type) where
  | signedMessage (pubkey : PublicKey) (timestamp : DateTime) (payload : List UInt8) (signature : Signature)

def ToServerRawMessage.tryParse (crates : Crates SigningKey DateTime) (bytes : List UInt8) :
    Outcome ParseError (ToServerRawMessage DateTime) :=
  if bytes.length < 3 then .err .tooShort else do
    let msgId ← index bytes 0
    let remoteVer ← index bytes 1
    if remoteVer ≠ protocolVersion then .err (.unsupportedVersion protocolVersion remoteVer) else do
      let bytes ← sliceFrom bytes 2
      if msgId = 1 then
        if bytes.length < 8 + 64 + 32 then .err .tooShort else do
          let millis ← toArray 8 (← sliceTo bytes 8)
          let timestamp ← okOr (crates.fromTimestampMillis (toI64 millis)) .invalidTimestamp
          let bytes ← sliceFrom bytes 8
          let signature ← toArray 64 (← sliceTo bytes 64)
          let bytes ← sliceFrom bytes 64
          let pubkey ← toArray 32 (← sliceTo bytes 32)
          let payload ← sliceFrom bytes 32
          pure (.signedMessage pubkey timestamp payload signature)
      else .err (.invalidMessageId msgId)

def ToServerRawMessage.toBytes (crates : Crates SigningKey DateTime) : ToServerRawMessage DateTime → List UInt8
  | .signedMessage pubkey timestamp payload signature =>
      [1, protocolVersion] ++ (ofI64 (crates.timestampMillis timestamp)).toList ++ signature.toList ++
        pubkey.toList ++ payload

/-- A client places a connection slot for the listed peers. -/
inductive ToServerSignedMessage where
  | connectionRequest (peerPubkeys : List PublicKey) (sessionId : UInt32)
  deriving DecidableEq

/-- The loop that reads the listed keys. -/
def readPeerPubkeys : Nat → List UInt8 → List PublicKey → Outcome ParseError (List PublicKey)
  | 0, _, peerPubkeys => .ok peerPubkeys
  | count + 1, payload, peerPubkeys => do
      let peerPubkey ← toArray 32 (← sliceTo payload 32)
      let payload ← sliceFrom payload 32
      readPeerPubkeys count payload (peerPubkeys ++ [peerPubkey])

/-- The part of the parser that follows the verification. -/
def ToServerSignedMessage.parsePayload (payload : List UInt8) : Outcome ParseError ToServerSignedMessage :=
  if payload.length = 0 then .err .tooShort else do
    let msgId ← index payload 0
    let payload ← sliceFrom payload 1
    if msgId = 1 then
      if payload.length < 4 + 1 then .err .invalidContentFormat else do
        let sessionId ← toArray 4 (← sliceTo payload 4)
        let payload ← sliceFrom payload 4
        let peerPubkeysLen ← index payload 0
        let peerPubkeysLen := peerPubkeysLen.toNat
        if peerPubkeysLen > 10 ∨ peerPubkeysLen = 0 then .err .invalidContentFormat else do
          let payload ← sliceFrom payload 1
          if payload.length < 32 * peerPubkeysLen then .err .invalidContentFormat else do
            let peerPubkeys ← readPeerPubkeys peerPubkeysLen payload []
            pure (.connectionRequest peerPubkeys (toU32 sessionId))
    else .err (.invalidMessageId msgId)

/-- The input is one incoming UDP datagram. -/
def ToServerSignedMessage.tryParse (crates : Crates SigningKey DateTime) (bytes : List UInt8) :
    Outcome ParseError (ToServerSignedMessage × PublicKey × DateTime) := do
  let .signedMessage pubkey timestamp payload signature ← ToServerRawMessage.tryParse crates bytes
  if crates.validKey pubkey = false then .err .invalidContentFormat else do
    let msg := (ofI64 (crates.timestampMillis timestamp)).toList ++ payload
    if crates.verify pubkey msg signature = false then .err .invalidSignature else do
      let msg ← ToServerSignedMessage.parsePayload payload
      pure (msg, pubkey, timestamp)

/-- The payload that `toBytes` assembles and signs. -/
def ToServerSignedMessage.payload : ToServerSignedMessage → List UInt8
  | .connectionRequest peerPubkeys sessionId =>
      [1] ++ (ofU32 sessionId).toList ++ [UInt8.ofNat peerPubkeys.length] ++ peerPubkeys.flatMap Vector.toList

/-- The bytes that `toBytes` hands to the signing key at the clock value `timestamp`. -/
def ToServerSignedMessage.signedPart (crates : Crates SigningKey DateTime) (timestamp : DateTime)
    (message : ToServerSignedMessage) : List UInt8 :=
  (ofI64 (crates.timestampMillis timestamp)).toList ++ message.payload

/-- The encoder refuses an empty list and a list of more than ten keys. -/
def ToServerSignedMessage.encodable : ToServerSignedMessage → Bool
  | .connectionRequest peerPubkeys _ => !(peerPubkeys.length > 10 || peerPubkeys.isEmpty)

/-- The output is one outgoing UDP datagram. The clock value is `Utc::now()`. -/
def ToServerSignedMessage.toBytes (crates : Crates SigningKey DateTime) (key : SigningKey)
    (timestamp : DateTime) (message : ToServerSignedMessage) : Outcome Empty (List UInt8) :=
  if message.encodable = false then .panic else
    let signature := crates.sign key (message.signedPart crates timestamp)
    let res : ToServerRawMessage DateTime :=
      .signedMessage (crates.verifyingKey key) timestamp message.payload signature
    .ok (res.toBytes crates)

/-- The answers of the server. -/
inductive FromServerMessage where
  | initiateConnectionRequest (peerPubkey : PublicKey) (peerAddress : SocketAddrV4)
      (remoteSessionId : UInt32) (isListener : Bool)
  | lostConnectionRequest (peerPubkey : PublicKey) (peerAddress : SocketAddrV4)
  deriving DecidableEq

def FromServerMessage.tryParse (bytes : List UInt8) : Outcome ParseError FromServerMessage :=
  if bytes.length = 0 then .err .tooShort else do
    let msgId ← index bytes 0
    let bytes ← sliceFrom bytes 1
    if msgId = 1 then
      if bytes.length < 32 + 4 + 2 + 4 + 1 then .err .tooShort else do
        let pubkey ← toArray 32 (← sliceTo bytes 32)
        let bytes ← sliceFrom bytes 32
        let ipAddr ← toArray 4 (← sliceTo bytes 4)
        let port ← toArray 2 (← sliceTo (← sliceFrom bytes 4) 2)
        let bytes ← sliceFrom bytes 6
        let remoteSessionId ← toArray 4 (← sliceTo bytes 4)
        let bytes ← sliceFrom bytes 4
        let isListener ← index bytes 0
        pure (.initiateConnectionRequest pubkey ⟨ipAddr, toU16 port⟩ (toU32 remoteSessionId) (isListener == 1))
    else if msgId = 2 then
      if bytes.length < 32 + 4 + 2 then .err .tooShort else do
        let pubkey ← toArray 32 (← sliceTo bytes 32)
        let bytes ← sliceFrom bytes 32
        let ipAddr ← toArray 4 (← sliceTo bytes 4)
        let port ← toArray 2 (← sliceTo (← sliceFrom bytes 4) 2)
        pure (.lostConnectionRequest pubkey ⟨ipAddr, toU16 port⟩)
    else .err (.invalidMessageId msgId)

def FromServerMessage.toBytes : FromServerMessage → List UInt8
  | .initiateConnectionRequest peerPubkey peerAddress remoteSessionId isListener =>
      [1] ++ peerPubkey.toList ++ peerAddress.ip.toList ++ (ofU16 peerAddress.port).toList ++
        (ofU32 remoteSessionId).toList ++ [isListener.toUInt8]
  | .lostConnectionRequest peerPubkey peerAddress =>
      [2] ++ peerPubkey.toList ++ peerAddress.ip.toList ++ (ofU16 peerAddress.port).toList

/-- A clock value in nanoseconds, within the years that `chrono` represents. -/
structure UtcNanos where
  nanos : Int
  representable : -8334601228800000 ≤ nanos / 1000000 ∧ nanos / 1000000 ≤ 8210266876799999
  deriving DecidableEq

/-- The wall clock at this second. -/
def sampleUtc (secs : UInt8) : UtcNanos where
  nanos := secs.toNat * 1000000000
  representable := by
    have bound := secs.toNat_lt
    omega

def sampleKey (name : UInt8) : PublicKey := Vector.replicate 32 name

def sampleAddr (name : UInt8) : SocketAddrV4 := ⟨#v[10, 0, 0, name], 4000⟩

/-- Concrete functions to run the model. A signature repeats its key and the head of its message, and
verification also asks whether the message is known to be signed. -/
def sampleCrates (known : PublicKey → List UInt8 → Bool) : Crates PublicKey UtcNanos where
  verifyingKey key := key
  sign key message := (key ++ Vector.ofFn fun index : Fin 32 => message.getD index.val 0 : Vector UInt8 64)
  validKey _ := true
  verify key message signature :=
    signature == (key ++ Vector.ofFn fun index : Fin 32 => message.getD index.val 0 : Vector UInt8 64) &&
      known key message
  fromTimestampMillis millis :=
    if fits : -8334601228800000 ≤ millis.toInt ∧ millis.toInt ≤ 8210266876799999 then
      some ⟨millis.toInt * 1000000, by omega⟩
    else none
  timestampMillis time := Int64.ofInt (time.nanos / 1000000)
  numSeconds now tm := (now.nanos - tm.nanos).tdiv 1000000000

/-- The sample functions where every message may be signed. -/
abbrev plainCrates : Crates PublicKey UtcNanos := sampleCrates fun _ _ => true

theorem sampleCrates_millisExact (known : PublicKey → List UInt8 → Bool) : (sampleCrates known).MillisExact := by
  intro millis time found
  simp only [sampleCrates] at found ⊢
  split_ifs at found with fits
  cases found
  simp

theorem sampleCrates_millisRepresentable (known : PublicKey → List UInt8 → Bool) :
    (sampleCrates known).MillisRepresentable := by
  intro time
  obtain ⟨low, high⟩ := time.representable
  have same : (Int64.ofInt (time.nanos / 1000000)).toInt = time.nanos / 1000000 :=
    Int64.toInt_ofInt_of_le (by simp; omega) (by simp; omega)
  simp [sampleCrates, same, low, high]

theorem sampleCrates_verify_known (known : PublicKey → List UInt8 → Bool) (pubkey : PublicKey)
    (message : List UInt8) (signature : Signature)
    (verified : (sampleCrates known).verify pubkey message signature = true) : known pubkey message = true := by
  simp only [sampleCrates, Bool.and_eq_true] at verified
  exact verified.2

theorem sampleCrates_signaturesVerify : (sampleCrates fun _ _ => true).SignaturesVerify := by
  intro key message
  simp [sampleCrates]

/-- A request of one client to another, as it goes over the wire at this second. -/
def sampleDatagram (name : UInt8) (sessionId : UInt32) (peer : UInt8) (utcNow : UtcNanos) : List UInt8 :=
  match (ToServerSignedMessage.connectionRequest [sampleKey peer] sessionId).toBytes plainCrates (sampleKey name)
      utcNow with
  | .ok bytes => bytes
  | .panic => []

end RepriseP2p.Udp
