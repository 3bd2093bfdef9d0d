import YubiHsm.Codes

/-!
# Audit options and audit tags

`audit.rs`: the auditing policy of a command (`AuditOption`) and the tags of the two kinds of
audit settings (`AuditTag`). Both are closed sets that round-trip through one byte; their
`from_u8` is the search decoder `ByteTag.fromU8Of` at their own variants and error text.

`auditTags_roundtrip`: each `from_u8` inverts `to_u8`, accepts exactly the bytes of its
variants, and fails on every other byte with the message that names it. The serde glue
(`Serialize`, the visitors of `Deserialize`) is not modelled.
-/

namespace YubiHsm

/-! ## Audit options -/

/-- `AuditOption`: auditing off, on, or permanently on. -/
inductive AuditOption where
  | Off
  | On
  | Fix
  deriving DecidableEq, Repr

namespace AuditOption

/-- `to_u8`: the discriminant. -/
def toU8 : AuditOption → UInt8
  | Off => 0x00
  | On => 0x01
  | Fix => 0x02

/-- The variants, in declaration order. -/
def all : List AuditOption := [Off, On, Fix]

def fromU8 (byte : UInt8) : Except String AuditOption :=
  ByteTag.fromU8Of all toU8 (fun byte => "invalid audit option value: " ++ toString byte.toNat)
    byte

theorem mem_all (o : AuditOption) : o ∈ all := by cases o <;> decide

end AuditOption

/-! ## Audit tags -/

/-- `AuditTag`: a forced audit setting, or the setting of one command. -/
inductive AuditTag where
  | Force
  | Command
  deriving DecidableEq, Repr

namespace AuditTag

/-- `to_u8`: the discriminant. -/
def toU8 : AuditTag → UInt8
  | Force => 0x01
  | Command => 0x03

/-- The variants, in declaration order. -/
def all : List AuditTag := [Force, Command]

def fromU8 (byte : UInt8) : Except String AuditTag :=
  ByteTag.fromU8Of all toU8 (fun byte => "invalid audit tag value: " ++ toString byte.toNat) byte

theorem mem_all (t : AuditTag) : t ∈ all := by cases t <;> decide

end AuditTag

/-! ## Round trips -/

/-- **Audit byte tags.** `AuditOption::from_u8` and `AuditTag::from_u8` invert `to_u8`, accept
exactly the bytes of their variants (`0x00` to `0x02`; `0x01` and `0x03`), and every error
they return is the message that names the byte. -/
theorem auditTags_roundtrip :
    (∀ o, AuditOption.fromU8 o.toU8 = .ok o) ∧
    (∀ b o, AuditOption.fromU8 b = .ok o → o.toU8 = b) ∧
    (∀ b, (∃ o, AuditOption.fromU8 b = .ok o) ↔ b = 0x00 ∨ b = 0x01 ∨ b = 0x02) ∧
    (∀ b e, AuditOption.fromU8 b = .error e →
      e = "invalid audit option value: " ++ toString b.toNat) ∧
    (∀ t, AuditTag.fromU8 t.toU8 = .ok t) ∧
    (∀ b t, AuditTag.fromU8 b = .ok t → t.toU8 = b) ∧
    (∀ b, (∃ t, AuditTag.fromU8 b = .ok t) ↔ b = 0x01 ∨ b = 0x03) ∧
    (∀ b e, AuditTag.fromU8 b = .error e → e = "invalid audit tag value: " ++ toString b.toNat) :=
  ⟨ByteTag.fromU8Of_toU8 _ (by decide) AuditOption.mem_all,
    fun _ _ => ByteTag.toU8_of_fromU8Of _,
    fun _ => by
      rw [AuditOption.fromU8, ByteTag.fromU8Of_isOk_iff]
      simp [AuditOption.all, AuditOption.toU8, eq_comm],
    fun _ _ => ByteTag.eq_of_fromU8Of_eq_error _,
    ByteTag.fromU8Of_toU8 _ (by decide) AuditTag.mem_all,
    fun _ _ => ByteTag.toU8_of_fromU8Of _,
    fun _ => by
      rw [AuditTag.fromU8, ByteTag.fromU8Of_isOk_iff]
      simp [AuditTag.all, AuditTag.toU8, eq_comm],
    fun _ _ => ByteTag.eq_of_fromU8Of_eq_error _⟩

example : AuditOption.fromU8 0x03 = .error "invalid audit option value: 3" := rfl

end YubiHsm
