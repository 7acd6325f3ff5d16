/-
This file gives the little-endian byte strings of bounded numbers and machine integers.
-/

import Mathlib.Tactic

namespace LittleEndian

/-- The base-256 digits of a number, least significant byte first. -/
def digits : Nat → Nat → List UInt8
  | 0, _ => []
  | width + 1, value => UInt8.ofNat (value % 256) :: digits width (value / 256)

/-- The number that a byte string denotes in base 256. -/
def value : List UInt8 → Nat
  | [] => 0
  | byte :: rest => byte.toNat + 256 * value rest

@[simp] theorem digits_length (width number : Nat) : (digits width number).length = width := by
  induction width generalizing number with
  | zero => rfl
  | succ width ih => simp [digits, ih]

theorem value_lt (bytes : List UInt8) : value bytes < 256 ^ bytes.length := by
  induction bytes with
  | nil => simp [value]
  | cons byte rest ih =>
      have small : byte.toNat < 256 := byte.toNat_lt
      simp only [value, List.length_cons, pow_succ]
      omega

/-- Reading the digits of a number gives the number modulo its width. -/
theorem value_digits (width number : Nat) : value (digits width number) = number % 256 ^ width := by
  induction width generalizing number with
  | zero => simp [digits, value, Nat.mod_one]
  | succ width ih =>
      have byte : (UInt8.ofNat (number % 256)).toNat = number % 256 := by
        simp [UInt8.toNat_ofNat']
      rw [digits, value, ih, byte, pow_succ, Nat.mul_comm (256 ^ width), Nat.mod_mul]

/-- Writing the value of a byte string gives the string back. -/
theorem digits_value (bytes : List UInt8) : digits bytes.length (value bytes) = bytes := by
  induction bytes with
  | nil => rfl
  | cons byte rest ih =>
      have small : byte.toNat < 256 := byte.toNat_lt
      have low : (byte.toNat + 256 * value rest) % 256 = byte.toNat := by omega
      have high : (byte.toNat + 256 * value rest) / 256 = value rest := by omega
      rw [List.length_cons, value, digits, low, high, ih, UInt8.ofNat_toNat]

/-- The digits as an array of their width. -/
def array (width number : Nat) : Vector UInt8 width :=
  ⟨(digits width number).toArray, by simp⟩

@[simp] theorem array_toList (width number : Nat) : (array width number).toList = digits width number := by
  simp [array, Vector.toList]

theorem array_value {width : Nat} (bytes : Vector UInt8 width) : array width (value bytes.toList) = bytes := by
  apply Vector.toList_inj.mp
  rw [array_toList]
  simpa only [Vector.length_toList] using digits_value bytes.toList

/-- The bytes of an unsigned 16-bit integer. -/
def ofU16 (number : UInt16) : Vector UInt8 2 := array 2 number.toNat

/-- The bytes of an unsigned 32-bit integer. -/
def ofU32 (number : UInt32) : Vector UInt8 4 := array 4 number.toNat

/-- The bytes of a signed 64-bit integer in two's complement. -/
def ofI64 (number : Int64) : Vector UInt8 8 := array 8 number.toBitVec.toNat

def toU16 (bytes : Vector UInt8 2) : UInt16 := UInt16.ofNat (value bytes.toList)

def toU32 (bytes : Vector UInt8 4) : UInt32 := UInt32.ofNat (value bytes.toList)

def toI64 (bytes : Vector UInt8 8) : Int64 := Int64.ofBitVec (BitVec.ofNat 64 (value bytes.toList))

@[simp] theorem toU16_ofU16 (number : UInt16) : toU16 (ofU16 number) = number := by
  have small : number.toNat < 256 ^ 2 := number.toNat_lt
  rw [toU16, ofU16, array_toList, value_digits, Nat.mod_eq_of_lt small, UInt16.ofNat_toNat]

@[simp] theorem toU32_ofU32 (number : UInt32) : toU32 (ofU32 number) = number := by
  have small : number.toNat < 256 ^ 4 := number.toNat_lt
  rw [toU32, ofU32, array_toList, value_digits, Nat.mod_eq_of_lt small, UInt32.ofNat_toNat]

@[simp] theorem toI64_ofI64 (number : Int64) : toI64 (ofI64 number) = number := by
  have small : number.toBitVec.toNat < 256 ^ 8 := number.toBitVec.isLt
  rw [toI64, ofI64, array_toList, value_digits, Nat.mod_eq_of_lt small, BitVec.ofNat_toNat,
    BitVec.setWidth_eq, Int64.ofBitVec_toBitVec]

@[simp] theorem ofU16_toU16 (bytes : Vector UInt8 2) : ofU16 (toU16 bytes) = bytes := by
  have small : value bytes.toList < 2 ^ 16 := by simpa using value_lt bytes.toList
  rw [ofU16, toU16, UInt16.toNat_ofNat', Nat.mod_eq_of_lt small, array_value]

@[simp] theorem ofU32_toU32 (bytes : Vector UInt8 4) : ofU32 (toU32 bytes) = bytes := by
  have small : value bytes.toList < 2 ^ 32 := by simpa using value_lt bytes.toList
  rw [ofU32, toU32, UInt32.toNat_ofNat', Nat.mod_eq_of_lt small, array_value]

@[simp] theorem ofI64_toI64 (bytes : Vector UInt8 8) : ofI64 (toI64 bytes) = bytes := by
  have small : value bytes.toList < 2 ^ 64 := by simpa using value_lt bytes.toList
  rw [ofI64, toI64, Int64.toBitVec_ofBitVec, BitVec.toNat_ofNat, Nat.mod_eq_of_lt small, array_value]

theorem ofI64_injective : Function.Injective ofI64 :=
  Function.LeftInverse.injective toI64_ofI64

end LittleEndian
