/-
This file proves that the client reads back every answer of the server and accepts nothing else.
-/

import RepriseP2p.Udp.Messages

namespace RepriseP2p.Udp

open Outcome LittleEndian

/-- The slice behind the message number. -/
theorem sliceFrom_one (msgId : UInt8) (bytes : List UInt8) :
    (sliceFrom (msgId :: bytes) 1 : Outcome ParseError (List UInt8)) = .ok bytes := by
  simp [sliceFrom]

/-- The slice behind an address and a port. -/
theorem sliceFrom_address (ip : Vector UInt8 4) (port : Vector UInt8 2) (bytes : List UInt8) :
    (sliceFrom (ip.toList ++ (port.toList ++ bytes)) 6 : Outcome ParseError (List UInt8)) = .ok bytes := by
  have both : (ip.toList ++ port.toList).length = 6 := by simp
  rw [sliceFrom, ← List.append_assoc, if_pos (by simp; omega), ← both, List.drop_left]

/-- The byte layout of a match notification, with tolerated trailing bytes. -/
def initiateLayout (pubkey : PublicKey) (ip : Vector UInt8 4) (port : Vector UInt8 2) (session : Vector UInt8 4)
    (flag : UInt8) (trailing : List UInt8) : List UInt8 :=
  1 :: (pubkey.toList ++ (ip.toList ++ (port.toList ++ (session.toList ++ flag :: trailing))))

/-- The byte layout of a loss notification, with tolerated trailing bytes. -/
def lostLayout (pubkey : PublicKey) (ip : Vector UInt8 4) (port : Vector UInt8 2) (trailing : List UInt8) :
    List UInt8 :=
  2 :: (pubkey.toList ++ (ip.toList ++ (port.toList ++ trailing)))

theorem exists_initiateLayout (bytes : List UInt8) (enough : 43 ≤ bytes.length) :
    ∃ pubkey ip port session flag trailing, 1 :: bytes = initiateLayout pubkey ip port session flag trailing := by
  obtain ⟨pubkey, afterKey, rfl⟩ := exists_front 32 bytes (by omega)
  simp only [List.length_append, Vector.length_toList] at enough
  obtain ⟨ip, afterIp, rfl⟩ := exists_front 4 afterKey (by omega)
  simp only [List.length_append, Vector.length_toList] at enough
  obtain ⟨port, afterPort, rfl⟩ := exists_front 2 afterIp (by omega)
  simp only [List.length_append, Vector.length_toList] at enough
  obtain ⟨session, afterSession, rfl⟩ := exists_front 4 afterPort (by omega)
  simp only [List.length_append, Vector.length_toList] at enough
  match afterSession, enough with
  | flag :: trailing, _ => exact ⟨pubkey, ip, port, session, flag, trailing, rfl⟩

theorem exists_lostLayout (bytes : List UInt8) (enough : 38 ≤ bytes.length) :
    ∃ pubkey ip port trailing, 2 :: bytes = lostLayout pubkey ip port trailing := by
  obtain ⟨pubkey, afterKey, rfl⟩ := exists_front 32 bytes (by omega)
  simp only [List.length_append, Vector.length_toList] at enough
  obtain ⟨ip, afterIp, rfl⟩ := exists_front 4 afterKey (by omega)
  simp only [List.length_append, Vector.length_toList] at enough
  obtain ⟨port, trailing, rfl⟩ := exists_front 2 afterIp (by omega)
  exact ⟨pubkey, ip, port, trailing, rfl⟩

/-- The parser reads the five fields of a match notification. -/
theorem FromServerMessage.tryParse_initiateLayout (pubkey : PublicKey) (ip : Vector UInt8 4)
    (port : Vector UInt8 2) (session : Vector UInt8 4) (flag : UInt8) (trailing : List UInt8) :
    FromServerMessage.tryParse (initiateLayout pubkey ip port session flag trailing) =
      .ok (.initiateConnectionRequest pubkey ⟨ip, toU16 port⟩ (toU32 session) (flag == 1)) := by
  have long : ¬ (pubkey.toList ++ (ip.toList ++ (port.toList ++ (session.toList ++ flag :: trailing)))).length <
      32 + 4 + 2 + 4 + 1 := by
    simp; omega
  rw [initiateLayout, tryParse, if_neg (by simp)]
  simp only [index_cons_zero, sliceFrom_one, ok_bind, if_pos, if_neg long, sliceTo_append, sliceFrom_append,
    toArray_toList, sliceFrom_address, pure_eq]

/-- The parser reads the three fields of a loss notification. -/
theorem FromServerMessage.tryParse_lostLayout (pubkey : PublicKey) (ip : Vector UInt8 4)
    (port : Vector UInt8 2) (trailing : List UInt8) :
    FromServerMessage.tryParse (lostLayout pubkey ip port trailing) =
      .ok (.lostConnectionRequest pubkey ⟨ip, toU16 port⟩) := by
  have long : ¬ (pubkey.toList ++ (ip.toList ++ (port.toList ++ trailing))).length < 32 + 4 + 2 := by
    simp; omega
  have other : ¬ (2 : UInt8) = 1 := by decide
  rw [lostLayout, tryParse, if_neg (by simp)]
  simp only [index_cons_zero, sliceFrom_one, ok_bind, if_neg other, if_pos, if_neg long, sliceTo_append,
    sliceFrom_append, toArray_toList, pure_eq]

/-- The encoder writes one of the two layouts. -/
theorem FromServerMessage.toBytes_append (message : FromServerMessage) (trailing : List UInt8) :
    message.toBytes ++ trailing =
      match message with
      | .initiateConnectionRequest peerPubkey peerAddress remoteSessionId isListener =>
          initiateLayout peerPubkey peerAddress.ip (ofU16 peerAddress.port) (ofU32 remoteSessionId)
            isListener.toUInt8 trailing
      | .lostConnectionRequest peerPubkey peerAddress =>
          lostLayout peerPubkey peerAddress.ip (ofU16 peerAddress.port) trailing := by
  cases message with
  | initiateConnectionRequest => simp [toBytes, initiateLayout]
  | lostConnectionRequest => simp [toBytes, lostLayout]

/-- The parser reads every answer back from its bytes, whatever follows them. -/
theorem FromServerMessage.tryParse_toBytes (message : FromServerMessage) (trailing : List UInt8) :
    FromServerMessage.tryParse (message.toBytes ++ trailing) = .ok message := by
  rw [toBytes_append]
  cases message with
  | initiateConnectionRequest peerPubkey peerAddress remoteSessionId isListener =>
      have flag : (isListener.toUInt8 == 1) = isListener := by cases isListener <;> rfl
      simp only [tryParse_initiateLayout, toU16_ofU16, toU32_ofU32, flag]
  | lostConnectionRequest peerPubkey peerAddress =>
      simp only [tryParse_lostLayout, toU16_ofU16]

/-- The byte strings that are empty, carry no known message number, or are too short for theirs. -/
def FromServerMessage.Refused (bytes : List UInt8) : Prop :=
  bytes = [] ∨ (bytes[0]? ≠ some 1 ∧ bytes[0]? ≠ some 2) ∨ (bytes[0]? = some 1 ∧ bytes.length < 44) ∨
    (bytes[0]? = some 2 ∧ bytes.length < 39)

/-- The fixed fields of an answer, where a listener byte other than 1 is written as 0. -/
def FromServerMessage.normalized (bytes : List UInt8) : List UInt8 :=
  if bytes[0]? = some 1 then bytes.take 43 ++ [if bytes[43]? = some 1 then 1 else 0] else bytes.take 39

/-- A refused byte string gives an error. -/
theorem FromServerMessage.tryParse_refused (bytes : List UInt8) (refused : Refused bytes) :
    ∃ error, FromServerMessage.tryParse bytes = .err error := by
  match bytes with
  | [] => exact ⟨.tooShort, rfl⟩
  | msgId :: rest =>
      rw [tryParse, if_neg (by simp)]
      simp only [index_cons_zero, sliceFrom_one, ok_bind]
      obtain empty | ⟨notFirst, notSecond⟩ | ⟨first, short⟩ | ⟨second, short⟩ := refused
      · cases empty
      · rw [if_neg (by simpa using notFirst), if_neg (by simpa using notSecond)]
        exact ⟨_, rfl⟩
      · simp only [List.length_cons] at short
        rw [if_pos (by simpa using first), if_pos (by omega)]
        exact ⟨_, rfl⟩
      · obtain rfl : msgId = 2 := by simpa using second
        simp only [List.length_cons] at short
        rw [if_neg (by decide), if_pos rfl, if_pos (by omega)]
        exact ⟨_, rfl⟩

/-- A byte string that is not refused has one of the two layouts. -/
theorem FromServerMessage.layout_of_not_refused (bytes : List UInt8) (accepted : ¬ Refused bytes) :
    (∃ pubkey ip port session flag trailing, bytes = initiateLayout pubkey ip port session flag trailing) ∨
      ∃ pubkey ip port trailing, bytes = lostLayout pubkey ip port trailing := by
  match bytes with
  | [] => exact absurd (.inl rfl) accepted
  | msgId :: rest =>
      simp only [Refused, List.getElem?_cons_zero, Option.some.injEq, List.length_cons, not_or, not_and,
        not_lt, ne_eq] at accepted
      obtain ⟨_, known, longFirst, longSecond⟩ := accepted
      by_cases first : msgId = 1
      · have enough := longFirst first
        rw [first]
        exact .inl (exists_initiateLayout rest (by omega))
      · have second := not_not.mp (known first)
        have enough := longSecond second
        rw [second]
        exact .inr (exists_lostLayout rest (by omega))

/-- Writing the fields that the parser reads gives the normalized bytes. -/
theorem normalized_initiateLayout (pubkey : PublicKey) (ip : Vector UInt8 4) (port : Vector UInt8 2)
    (session : Vector UInt8 4) (flag : UInt8) (trailing : List UInt8) :
    FromServerMessage.normalized (initiateLayout pubkey ip port session flag trailing) =
      (FromServerMessage.initiateConnectionRequest pubkey ⟨ip, toU16 port⟩ (toU32 session) (flag == 1)).toBytes := by
  have fields : (1 :: (pubkey.toList ++ (ip.toList ++ (port.toList ++ session.toList))) : List UInt8).length = 43 := by
    simp
  have split : initiateLayout pubkey ip port session flag trailing =
      (1 :: (pubkey.toList ++ (ip.toList ++ (port.toList ++ session.toList)))) ++ flag :: trailing := by
    simp [initiateLayout]
  have first : (initiateLayout pubkey ip port session flag trailing)[0]? = some 1 := rfl
  have listener : (initiateLayout pubkey ip port session flag trailing)[43]? = some flag := by
    rw [split, List.getElem?_append_right (by omega), fields]
    rfl
  have byte : (if flag = 1 then 1 else 0 : UInt8) = (flag == 1).toUInt8 := by
    by_cases one : flag = 1
    · rw [one]
      rfl
    · rw [if_neg one, beq_false_of_ne one]
      rfl
  rw [FromServerMessage.normalized, if_pos first, listener, split, List.take_left' fields]
  simp only [Option.some.injEq, byte]
  simp [FromServerMessage.toBytes]

theorem normalized_lostLayout (pubkey : PublicKey) (ip : Vector UInt8 4) (port : Vector UInt8 2)
    (trailing : List UInt8) :
    FromServerMessage.normalized (lostLayout pubkey ip port trailing) =
      (FromServerMessage.lostConnectionRequest pubkey ⟨ip, toU16 port⟩).toBytes := by
  have fields : (2 :: (pubkey.toList ++ (ip.toList ++ port.toList)) : List UInt8).length = 39 := by
    simp
  have split : lostLayout pubkey ip port trailing =
      (2 :: (pubkey.toList ++ (ip.toList ++ port.toList))) ++ trailing := by
    simp [lostLayout]
  have other : ¬ (lostLayout pubkey ip port trailing)[0]? = some 1 := by simp [lostLayout]
  rw [FromServerMessage.normalized, if_neg other, split, List.take_left' fields]
  simp [FromServerMessage.toBytes]

/-- The parser accepts every byte string that is not refused, and keeps its normalized bytes. -/
theorem FromServerMessage.tryParse_accepted (bytes : List UInt8) (accepted : ¬ Refused bytes) :
    ∃ message, FromServerMessage.tryParse bytes = .ok message ∧ message.toBytes = normalized bytes := by
  obtain ⟨pubkey, ip, port, session, flag, trailing, rfl⟩ | ⟨pubkey, ip, port, trailing, rfl⟩ :=
    layout_of_not_refused bytes accepted
  · exact ⟨_, tryParse_initiateLayout pubkey ip port session flag trailing,
      (normalized_initiateLayout pubkey ip port session flag trailing).symm⟩
  · exact ⟨_, tryParse_lostLayout pubkey ip port trailing, (normalized_lostLayout pubkey ip port trailing).symm⟩

theorem FromServerMessage.tryParse_ne_panic (bytes : List UInt8) : FromServerMessage.tryParse bytes ≠ .panic := by
  by_cases refused : Refused bytes
  · obtain ⟨error, failed⟩ := tryParse_refused bytes refused
    simp [failed]
  · obtain ⟨message, read, _⟩ := tryParse_accepted bytes refused
    simp [read]

/-- The parser reads every answer back. It never panics, fails exactly on the refused byte strings, and
returns the answer whose bytes are the normalized ones. -/
theorem FromServerMessage.codec_exact :
    (∀ message trailing, FromServerMessage.tryParse (message.toBytes ++ trailing) = .ok message) ∧
      ∀ bytes, FromServerMessage.tryParse bytes ≠ .panic ∧
        ((∃ error, FromServerMessage.tryParse bytes = .err error) ↔ Refused bytes) ∧
        ∀ message, FromServerMessage.tryParse bytes = .ok message → message.toBytes = normalized bytes := by
  refine ⟨tryParse_toBytes, fun bytes => ⟨tryParse_ne_panic bytes, ?_⟩⟩
  by_cases refused : Refused bytes
  · obtain ⟨error, failed⟩ := tryParse_refused bytes refused
    rw [failed]
    refine ⟨⟨fun _ => refused, fun _ => ⟨error, rfl⟩⟩, ?_⟩
    intro message read
    cases read
  · obtain ⟨message, read, same⟩ := tryParse_accepted bytes refused
    rw [read]
    refine ⟨⟨?_, fun bad => absurd bad refused⟩, ?_⟩
    · intro failure
      obtain ⟨error, failed⟩ := failure
      cases failed
    · intro other found
      cases found
      exact same

end RepriseP2p.Udp
