import YubiHsm.Bytes

/-!
# Domains

`domains.rs`: the sixteen domains an object may belong to, as a `bitflags` set over a `u16`
with one flag per bit, and its serde glue: `Serialize` writes `bits()`, `Deserialize` reads a
`u16` and keeps it if `from_bits` accepts it, failing with `"invalid domain bitflags"`
otherwise.

`domains_roundtrip`: the sixteen flags cover every bit, so `from_bits` accepts every `u16`;
deserialization never fails, and it and serialization invert each other.
-/

namespace YubiHsm

/-- `Domains`: a `bitflags` set over a `u16`. -/
structure Domains where
  bits : UInt16
  deriving DecidableEq, Repr

namespace Domains

/-- `ALL_DOMAINS`: `DOMAIN_1 = 0x0001` to `DOMAIN_16 = 0x8000`. -/
def allDomains : List Domains :=
  [⟨0x0001⟩, ⟨0x0002⟩, ⟨0x0004⟩, ⟨0x0008⟩, ⟨0x0010⟩, ⟨0x0020⟩, ⟨0x0040⟩, ⟨0x0080⟩,
    ⟨0x0100⟩, ⟨0x0200⟩, ⟨0x0400⟩, ⟨0x0800⟩, ⟨0x1000⟩, ⟨0x2000⟩, ⟨0x4000⟩, ⟨0x8000⟩]

/-- `Domains::all()`: the union of the flags. -/
def all : Domains := ⟨allDomains.foldl (fun bits d => bits ||| d.bits) 0⟩

/-- `Domains::from_bits`: the set of these bits, unless one of them is no flag. -/
def fromBits (bits : UInt16) : Option Domains :=
  if bits &&& ~~~all.bits = 0 then some ⟨bits⟩ else none

/-- `Serialize`: `serialize_u16(self.bits())`. -/
def serialize (d : Domains) : UInt16 := d.bits

/-- `DomainsVisitor::visit_u16`. -/
def visitU16 (value : UInt16) : Except String Domains :=
  match fromBits value with
  | some d => .ok d
  | none => .error "invalid domain bitflags"

theorem all_bits : all.bits = 0xFFFF := by decide

/-- Every `u16` is a set of flags. -/
theorem fromBits_eq (bits : UInt16) : fromBits bits = some ⟨bits⟩ := by
  have hmask : bits &&& ~~~all.bits = 0 := by
    apply UInt16.eq_of_toBitVec_eq
    show bits.toBitVec &&& ~~~all.bits.toBitVec = 0#16
    rw [all_bits, show ~~~(0xFFFF : UInt16).toBitVec = 0#16 by decide, BitVec.and_zero]
  simp [fromBits, hmask]

end Domains

/-- **Domains round-trip.** `Deserialize` accepts every `u16`, so its error
`"invalid domain bitflags"` never occurs, and it inverts `Serialize` both ways. -/
theorem domains_roundtrip :
    (∀ value : UInt16, Domains.visitU16 value = .ok ⟨value⟩) ∧
    (∀ d : Domains, Domains.visitU16 d.serialize = .ok d) ∧
    (∀ value : UInt16, ∀ d, Domains.visitU16 value = .ok d → d.serialize = value) := by
  have h : ∀ value, Domains.visitU16 value = .ok ⟨value⟩ := fun value => by
    simp [Domains.visitU16, Domains.fromBits_eq]
  refine ⟨h, fun d => h d.bits, fun value d hd => ?_⟩
  rw [h value] at hd
  cases hd
  rfl

end YubiHsm
