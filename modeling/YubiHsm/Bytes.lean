import Mathlib.Data.Vector.Basic

/-!
# Byte strings

The channel works on two kinds of byte strings: `Vec<u8>` and `&[u8]`, which are lists of
bytes here, and the fixed-size arrays `[u8; N]` (keys, challenges, MAC tags), which are
`Bytes N`, lists that carry their length. The big-endian writers and readers of `byteorder`
are `writeU16`, `readU16` and `writeU32`; `as u16` truncates, so `writeU16` takes any length
and keeps it modulo `2^16`.
-/

namespace YubiHsm

/-- A fixed-size byte array `[u8; n]`. -/
abbrev Bytes (n : Nat) := Mathlib.Vector UInt8 n

/-- An AES block, and also an AES-128 key and a CMAC tag: `[u8; 16]`. -/
abbrev Block := Bytes 16

namespace Bytes

/-- The all-zero array `[0u8; n]`, which is also what `zeroize` leaves behind. -/
def zero (n : Nat) : Bytes n := Mathlib.Vector.replicate n 0

/-- Bytewise exclusive or of two arrays of one size. -/
def xor {n : Nat} (a b : Bytes n) : Bytes n := Mathlib.Vector.map₂ (· ^^^ ·) a b

/-- The first `k` bytes of an array of `n ≥ k` bytes, as `&array[..k]` takes them. -/
def take {n : Nat} (k : Nat) (h : k ≤ n) (a : Bytes n) : Bytes k :=
  ⟨a.toList.take k, by simp [h]⟩

@[simp] theorem toList_zero (n : Nat) : (zero n).toList = List.replicate n 0 := rfl

@[simp] theorem toList_take {n k : Nat} (h : k ≤ n) (a : Bytes n) :
    (take k h a).toList = a.toList.take k := rfl

@[simp] theorem length_toList {n : Nat} (a : Bytes n) : a.toList.length = n := a.2

theorem uint8_xor_xor (a b : UInt8) : (a ^^^ b) ^^^ b = a := by
  cases a; cases b
  show UInt8.mk ((_ ^^^ _) ^^^ _) = _
  rw [BitVec.xor_assoc, BitVec.xor_self, BitVec.xor_zero]

theorem uint8_xor_assoc (a b c : UInt8) : (a ^^^ b) ^^^ c = a ^^^ (b ^^^ c) :=
  UInt8.eq_of_toBitVec_eq (BitVec.xor_assoc _ _ _)

theorem uint8_xor_comm (a b : UInt8) : a ^^^ b = b ^^^ a :=
  UInt8.eq_of_toBitVec_eq (BitVec.xor_comm _ _)

theorem uint8_xor_self (a : UInt8) : a ^^^ a = 0 := UInt8.eq_of_toBitVec_eq BitVec.xor_self

theorem uint8_zero_xor (a : UInt8) : 0 ^^^ a = a := UInt8.eq_of_toBitVec_eq BitVec.zero_xor

@[simp] theorem xor_xor {n : Nat} (a b : Bytes n) : xor (xor a b) b = a :=
  Mathlib.Vector.ext fun i => by simp [xor, Mathlib.Vector.get_map₂, uint8_xor_xor]

@[simp] theorem toList_xor {n : Nat} (a b : Bytes n) :
    (xor a b).toList = List.zipWith (· ^^^ ·) a.toList b.toList := by
  cases a; cases b; rfl

theorem xor_assoc {n : Nat} (a b c : Bytes n) : xor (xor a b) c = xor a (xor b c) :=
  Mathlib.Vector.ext fun i => by simp [xor, Mathlib.Vector.get_map₂, uint8_xor_assoc]

theorem xor_comm {n : Nat} (a b : Bytes n) : xor a b = xor b a :=
  Mathlib.Vector.ext fun i => by simp [xor, Mathlib.Vector.get_map₂, uint8_xor_comm]

@[simp] theorem xor_self {n : Nat} (a : Bytes n) : xor a a = zero n :=
  Mathlib.Vector.ext fun i => by simp [xor, zero, Mathlib.Vector.get_map₂, uint8_xor_self]

@[simp] theorem zero_xor {n : Nat} (a : Bytes n) : xor (zero n) a = a :=
  Mathlib.Vector.ext fun i => by simp [xor, zero, Mathlib.Vector.get_map₂, uint8_zero_xor]

theorem xor_eq_zero_iff {n : Nat} {a b : Bytes n} : xor a b = zero n ↔ a = b :=
  ⟨fun h => by rw [← xor_xor a b, h, zero_xor], fun h => h ▸ xor_self a⟩

theorem xor_eq_self_iff {n : Nat} {a d : Bytes n} : xor a d = a ↔ d = zero n := by
  rw [xor_comm, ← xor_xor d a, xor_eq_zero_iff, xor_xor, eq_comm]

end Bytes

/-! ## Big-endian integers -/

/-- `BigEndian::write_u16(&mut buf, n as u16)`: the two bytes of `n mod 2^16`. -/
def writeU16 (n : Nat) : List UInt8 := [UInt8.ofNat (n / 256), UInt8.ofNat n]

/-- `BigEndian::read_u16(&buf[..2])`. -/
def readU16 (hi lo : UInt8) : Nat := hi.toNat * 256 + lo.toNat

/-- `BigEndian::write_u32(&mut buf, n)`. -/
def writeU32 (n : UInt32) : List UInt8 :=
  [UInt8.ofNat (n.toNat / 2 ^ 24), UInt8.ofNat (n.toNat / 2 ^ 16), UInt8.ofNat (n.toNat / 2 ^ 8),
    UInt8.ofNat n.toNat]

theorem toNat_ofNat_byte (n : Nat) : (UInt8.ofNat n).toNat = n % 256 := BitVec.toNat_ofNat n 8

@[simp] theorem length_writeU16 (n : Nat) : (writeU16 n).length = 2 := rfl

@[simp] theorem length_writeU32 (n : UInt32) : (writeU32 n).length = 4 := rfl

theorem readU16_lt (hi lo : UInt8) : readU16 hi lo < 2 ^ 16 := by
  have := hi.toNat_lt_size; have := lo.toNat_lt_size
  simp only [readU16, UInt8.size] at *; omega

/-- Reading back what `write_u16` wrote gives the length modulo `2^16`. -/
theorem readU16_writeU16 (n : Nat) :
    readU16 (UInt8.ofNat (n / 256)) (UInt8.ofNat n) = n % 2 ^ 16 := by
  simp only [readU16, toNat_ofNat_byte]
  omega

/-- `write_u32` is injective: the four bytes are the counter. -/
theorem writeU32_injective {a b : UInt32} (h : writeU32 a = writeU32 b) : a = b := by
  simp only [writeU32, List.cons.injEq, and_true] at h
  obtain ⟨h1, h2, h3, h4⟩ := h
  replace h1 := congrArg UInt8.toNat h1
  replace h2 := congrArg UInt8.toNat h2
  replace h3 := congrArg UInt8.toNat h3
  replace h4 := congrArg UInt8.toNat h4
  simp only [toNat_ofNat_byte] at h1 h2 h3 h4
  have ha := a.toNat_lt_size
  have hb := b.toNat_lt_size
  simp only [UInt32.size] at ha hb
  exact UInt32.toNat.inj (by omega)

/-- Writing what `read_u16` read gives the two bytes back. -/
theorem writeU16_readU16 (hi lo : UInt8) : writeU16 (readU16 hi lo) = [hi, lo] := by
  have := hi.toNat_lt_size; have := lo.toNat_lt_size
  simp only [UInt8.size] at *
  simp only [writeU16, readU16, List.cons.injEq, and_true]
  constructor <;> apply UInt8.toNat.inj <;> rw [toNat_ofNat_byte] <;> omega

end YubiHsm
