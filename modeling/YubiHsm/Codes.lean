import YubiHsm.Bytes

/-!
# Codes, session IDs and errors

Command codes (`command/mod.rs`) and response codes (`response/code.rs`) are closed sets that
round-trip through one byte. Their byte tables are not part of these sources, so the
development takes them as a parameter `Codes`: a `ByteTag` for each, whose fields say that
`to_u8` and `from_u8` are mutually inverse on valid bytes, and the three command codes the
channel itself uses, with their bytes from the spec. `ByteTag.fromU8Of` decodes a byte by
searching a list of codes; the `from_u8` functions of `audit.rs` are instances of it.
Response codes are the enum of `response/code.rs` over any type of command codes, with the
variants `error.rs` and `message.rs` name.

`SessionId` (`session/id.rs`, also absent) is modelled from the spec: one byte below 16.
Errors are the `Error<Kind>` of `error.rs` at the session error kinds that `client/error.rs`
matches on, and `Fault` adds a panic, so that every call ends in a value, an `Err` or a panic.
The device error tags of `HsmErrorKind` round-trip through `from_u8` and `to_u8` but for the
`Unknown` kinds of named tags (`HsmErrorKind.toU8_fromU8`, `HsmErrorKind.fromU8_toU8_iff`), and
every kind `from_response_code` returns round-trips.
-/

namespace YubiHsm

/-! ## Byte tags -/

/-- A closed set of codes with its byte tag (design note "enumeration ↔ byte tag duality").
`fromU8` fails, with the text its error displays, on the bytes that are no code and inverts
`toU8` on the others; `debug` is the derived `Debug` rendering that error texts use. -/
structure ByteTag (α : Type) where
  toU8 : α → UInt8
  fromU8 : UInt8 → Except String α
  debug : α → String
  fromU8_toU8 : ∀ a, fromU8 (toU8 a) = .ok a
  toU8_of_fromU8 : ∀ {b a}, fromU8 b = .ok a → toU8 a = b

namespace ByteTag

/-- `from_u8` of a closed set of codes listed in `all`, decoded by search: the code whose tag is
the byte, or an error with the text `invalid` gives for the byte. -/
def fromU8Of [DecidableEq α] (all : List α) (toU8 : α → UInt8) (invalid : UInt8 → String)
    (b : UInt8) : Except String α :=
  match all.find? (toU8 · == b) with
  | some a => .ok a
  | none => .error (invalid b)

section

variable {α : Type} [DecidableEq α] {all : List α} {toU8 : α → UInt8} (invalid : UInt8 → String)

theorem fromU8Of_toU8 (nodup : (all.map toU8).Nodup) (complete : ∀ a, a ∈ all) (a : α) :
    fromU8Of all toU8 invalid (toU8 a) = .ok a := by
  obtain ⟨a', ha', hfind⟩ : ∃ a', toU8 a' = toU8 a ∧ all.find? (toU8 · == toU8 a) = some a' := by
    cases h : all.find? (toU8 · == toU8 a) with
    | none => simpa using List.find?_eq_none.mp h a (complete a)
    | some a' => exact ⟨a', by simpa using List.find?_some h, rfl⟩
  rw [fromU8Of, hfind, List.inj_on_of_nodup_map nodup (complete a') (complete a) ha']

theorem toU8_of_fromU8Of {b : UInt8} {a : α} (h : fromU8Of all toU8 invalid b = .ok a) :
    toU8 a = b := by
  unfold fromU8Of at h
  split at h
  · next a' hfind => cases h; simpa using List.find?_some hfind
  · cases h

/-- The bytes that decode are the tags of the listed codes. -/
theorem fromU8Of_isOk_iff {b : UInt8} :
    (∃ a, fromU8Of all toU8 invalid b = .ok a) ↔ ∃ a ∈ all, toU8 a = b := by
  unfold fromU8Of
  cases h : all.find? (toU8 · == b) with
  | none => simpa using List.find?_eq_none.mp h
  | some a => simpa using ⟨a, List.mem_of_find?_eq_some h, by simpa using List.find?_some h⟩

/-- Every error of the decoder is the text `invalid` gives for the byte. -/
theorem eq_of_fromU8Of_eq_error {b : UInt8} {e : String}
    (h : fromU8Of all toU8 invalid b = .error e) : e = invalid b := by
  unfold fromU8Of at h
  split at h <;> cases h
  rfl

end

/-- The tag of a finite set of codes listed in `all`, decoded by search. -/
def ofList [DecidableEq α] (all : List α) (toU8 : α → UInt8) (debug : α → String)
    (nodup : (all.map toU8).Nodup) (complete : ∀ a, a ∈ all) : ByteTag α where
  toU8 := toU8
  fromU8 := fromU8Of all toU8 fun b => "unknown code: " ++ toString b.toNat
  debug := debug
  fromU8_toU8 := fromU8Of_toU8 _ nodup complete
  toU8_of_fromU8 := toU8_of_fromU8Of _

variable {α : Type} (t : ByteTag α)

theorem toU8_injective : Function.Injective t.toU8 := fun a b h => by
  have h' := t.fromU8_toU8 a
  rw [h, t.fromU8_toU8 b] at h'
  exact (Except.ok.inj h').symm

end ByteTag

/-! ## Command and response codes -/

/-- `ResponseCode` of `response/code.rs`: success for a command, or a device error. -/
inductive ResponseCode (CommandCode : Type) where
  | Success (command : CommandCode)
  | MemoryError
  | DeviceOK
  | DeviceInvalidCommand
  | DeviceInvalidData
  | DeviceInvalidSession
  | DeviceAuthFail
  | DeviceSessionsFull
  | DeviceSessionFailed
  | DeviceStorageFailed
  | DeviceWrongLength
  | DeviceInvalidPermission
  | DeviceLogFull
  | DeviceObjNotFound
  | DeviceIDIllegal
  | DeviceInvalidOTP
  | DeviceDemoMode
  | DeviceCmdUnexecuted
  | GenericError
  | DeviceObjectExists
  deriving DecidableEq, Repr

/-- The byte tables of command and response codes, and the three command codes the channel
uses, at the bytes of the spec's table of command codes consumed by the core. -/
structure Codes (CommandCode : Type) where
  command : ByteTag CommandCode
  response : ByteTag (ResponseCode CommandCode)
  CreateSession : CommandCode
  AuthSession : CommandCode
  SessionMessage : CommandCode
  createSession_toU8 : command.toU8 CreateSession = 0x03
  authSession_toU8 : command.toU8 AuthSession = 0x04
  sessionMessage_toU8 : command.toU8 SessionMessage = 0x05

namespace Codes

variable {CommandCode : Type} (codes : Codes CommandCode)

theorem authSession_ne_sessionMessage : codes.AuthSession ≠ codes.SessionMessage :=
  ne_of_apply_ne codes.command.toU8 <| by
    rw [codes.authSession_toU8, codes.sessionMessage_toU8]; decide

theorem createSession_ne_sessionMessage : codes.CreateSession ≠ codes.SessionMessage :=
  ne_of_apply_ne codes.command.toU8 <| by
    rw [codes.createSession_toU8, codes.sessionMessage_toU8]; decide

theorem authSession_ne_createSession : codes.AuthSession ≠ codes.CreateSession :=
  ne_of_apply_ne codes.command.toU8 <| by
    rw [codes.authSession_toU8, codes.createSession_toU8]; decide

end Codes

/-! ## Errors -/

/-- Kinds of errors that originate in the HSM (`HsmErrorKind` of `error.rs`). -/
inductive HsmErrorKind where
  | Unknown (code : UInt8)
  | CommandInvalid
  | DataInvalid
  | SessionInvalid
  | AuthFail
  | SessionsFull
  | SessionFailed
  | StorageFailed
  | WrongLength
  | PermissionInvalid
  | LogFull
  | ObjectNotFound
  | IDIllegal
  | InvalidOTP
  | DemoMode
  | CmdUnexecuted
  | GenericError
  | ObjectExists
  deriving DecidableEq, Repr

namespace HsmErrorKind

/-- `HsmErrorKind::from_u8`: the kind of a device error tag. -/
def fromU8 (tag : UInt8) : HsmErrorKind :=
  match tag with
  | 0x01 => CommandInvalid
  | 0x02 => DataInvalid
  | 0x03 => SessionInvalid
  | 0x04 => AuthFail
  | 0x05 => SessionsFull
  | 0x06 => SessionFailed
  | 0x07 => StorageFailed
  | 0x08 => WrongLength
  | 0x09 => PermissionInvalid
  | 0x0a => LogFull
  | 0x0b => ObjectNotFound
  | 0x0c => IDIllegal
  | 0x0d => InvalidOTP
  | 0x0e => DemoMode
  | 0x0f => CmdUnexecuted
  | 0x10 => GenericError
  | 0x11 => ObjectExists
  | code => Unknown code

/-- `HsmErrorKind::to_u8`: the byte tag of a kind. -/
def toU8 : HsmErrorKind → UInt8
  | Unknown code => code
  | CommandInvalid => 0x01
  | DataInvalid => 0x02
  | SessionInvalid => 0x03
  | AuthFail => 0x04
  | SessionsFull => 0x05
  | SessionFailed => 0x06
  | StorageFailed => 0x07
  | WrongLength => 0x08
  | PermissionInvalid => 0x09
  | LogFull => 0x0a
  | ObjectNotFound => 0x0b
  | IDIllegal => 0x0c
  | InvalidOTP => 0x0d
  | DemoMode => 0x0e
  | CmdUnexecuted => 0x0f
  | GenericError => 0x10
  | ObjectExists => 0x11

/-- `HsmErrorKind::from_response_code`: the kind of a device error response code. -/
def fromResponseCode {CommandCode : Type} : ResponseCode CommandCode → Option HsmErrorKind
  | .DeviceInvalidCommand => some CommandInvalid
  | .DeviceInvalidData => some DataInvalid
  | .DeviceInvalidSession => some SessionInvalid
  | .DeviceAuthFail => some AuthFail
  | .DeviceSessionsFull => some SessionsFull
  | .DeviceSessionFailed => some SessionFailed
  | .DeviceStorageFailed => some StorageFailed
  | .DeviceWrongLength => some WrongLength
  | .DeviceInvalidPermission => some PermissionInvalid
  | .DeviceLogFull => some LogFull
  | .DeviceObjNotFound => some ObjectNotFound
  | .DeviceIDIllegal => some IDIllegal
  | .DeviceInvalidOTP => some InvalidOTP
  | .DeviceDemoMode => some DemoMode
  | .DeviceCmdUnexecuted => some CmdUnexecuted
  | .GenericError => some GenericError
  | .DeviceObjectExists => some ObjectExists
  | _ => none

@[simp] theorem toU8_fromU8 (tag : UInt8) : (fromU8 tag).toU8 = tag := by
  unfold fromU8
  split <;> rfl

theorem fromU8_injective : Function.Injective fromU8 := fun a b h => by
  rw [← toU8_fromU8 a, h, toU8_fromU8]

/-- `from_u8` names exactly the tags `0x01` to `0x11`. -/
theorem fromU8_eq_unknown_iff (tag : UInt8) :
    fromU8 tag = Unknown tag ↔ tag.toNat = 0 ∨ 0x11 < tag.toNat := by
  constructor
  · intro h
    by_contra hc
    have named : ∀ n < 0x12, 0 < n → fromU8 (UInt8.ofNat n) ≠ Unknown (UInt8.ofNat n) := by
      decide
    have htag : UInt8.ofNat tag.toNat = tag :=
      UInt8.toNat.inj (UInt8.toNat_ofNat_of_lt tag.toNat_lt_size)
    rw [← htag] at h
    exact named tag.toNat (by omega) (by omega) h
  · intro h
    unfold fromU8
    split <;> first | rfl | (revert h; decide)

/-- `from_u8` inverts `to_u8` on every kind but the `Unknown` of a tag it names. -/
theorem fromU8_toU8_iff (k : HsmErrorKind) :
    fromU8 k.toU8 = k ↔ ∀ code, k = Unknown code → code.toNat = 0 ∨ 0x11 < code.toNat := by
  cases k with
  | Unknown code => simpa only [toU8, Unknown.injEq, forall_eq'] using fromU8_eq_unknown_iff code
  | _ => exact iff_of_true rfl fun _ h => nomatch h

theorem fromU8_toU8_of_fromResponseCode {CommandCode : Type} {c : ResponseCode CommandCode}
    {k : HsmErrorKind} (h : fromResponseCode c = some k) : fromU8 k.toU8 = k := by
  cases c <;> cases h <;> rfl

end HsmErrorKind

/-- Session error kinds, as `client/error.rs` matches on them. -/
inductive SessionErrorKind where
  | AuthFail
  | ClosedSessionError
  | CreateFailed
  | DeviceError (kind : HsmErrorKind)
  | ProtocolError
  | CommandLimitExceeded
  | MismatchError
  | VerifyFailed
  | ResponseError
  deriving DecidableEq, Repr

/-- `Error<Kind>` of `error.rs`: a kind and an optional description. -/
structure Error (Kind : Type) where
  kind : Kind
  description : Option String
  deriving DecidableEq, Repr

abbrev SessionError := Error SessionErrorKind

def err (kind : SessionErrorKind) (msg : String) : SessionError := ⟨kind, some msg⟩

/-- How a call can fail: with an `Err` it returns, or with a panic (`assert!`, `unwrap`,
`expect`, an overflow check). -/
inductive Fault where
  | err (e : SessionError)
  | panic (msg : String)
  deriving DecidableEq, Repr

/-! ## Session IDs -/

/-- Modelled from the spec: the device holds at most 16 concurrent sessions. -/
def maxSessions : Nat := 16

/-- Modelled from the spec: `session/id.rs` is not part of the sources. A session ID is one
byte from 0 to 15. -/
structure SessionId where
  toU8 : UInt8
  lt : toU8.toNat < maxSessions
  deriving DecidableEq

/-- Modelled from the spec: `SessionId::new` rejects bytes of 16 and above with a protocol
error. -/
def SessionId.new (id : UInt8) : Except SessionError SessionId :=
  if h : id.toNat < maxSessions then .ok ⟨id, h⟩
  else .error (err .ProtocolError ("session ID exceeds the maximum allowed: " ++
    toString id.toNat ++ " (max " ++ toString (maxSessions - 1) ++ ")"))

@[simp] theorem SessionId.new_toU8 (id : SessionId) : SessionId.new id.toU8 = .ok id := by
  simp [SessionId.new, id.lt]

theorem SessionId.toU8_of_new {b : UInt8} {id : SessionId} (h : SessionId.new b = .ok id) :
    id.toU8 = b := by
  unfold SessionId.new at h
  split at h
  · cases h; rfl
  · cases h

/-! ## A sample of the codes -/

/-- Four command codes: the three the channel uses and `Echo`, at their bytes in the spec. -/
inductive SampleCommand where
  | Echo
  | CreateSession
  | AuthSession
  | SessionMessage
  deriving DecidableEq, Repr

namespace SampleCommand

def toU8 : SampleCommand → UInt8
  | Echo => 0x01
  | CreateSession => 0x03
  | AuthSession => 0x04
  | SessionMessage => 0x05

def all : List SampleCommand := [Echo, CreateSession, AuthSession, SessionMessage]

theorem mem_all (c : SampleCommand) : c ∈ all := by cases c <;> decide

end SampleCommand

/-- The response byte of a sample response code: `Success(cmd)` is `cmd | 0x80`, the device
errors count up from `0x00`, `GenericError` is `0x7f`. -/
def sampleResponseToU8 : ResponseCode SampleCommand → UInt8
  | .Success c => c.toU8 ||| 0x80
  | .DeviceOK => 0x00
  | .DeviceInvalidCommand => 0x01
  | .DeviceInvalidData => 0x02
  | .DeviceInvalidSession => 0x03
  | .DeviceAuthFail => 0x04
  | .DeviceSessionsFull => 0x05
  | .DeviceSessionFailed => 0x06
  | .DeviceStorageFailed => 0x07
  | .DeviceWrongLength => 0x08
  | .DeviceInvalidPermission => 0x09
  | .DeviceLogFull => 0x0a
  | .DeviceObjNotFound => 0x0b
  | .DeviceIDIllegal => 0x0c
  | .DeviceInvalidOTP => 0x0d
  | .DeviceDemoMode => 0x0e
  | .DeviceCmdUnexecuted => 0x0f
  | .DeviceObjectExists => 0x10
  | .MemoryError => 0x7e
  | .GenericError => 0x7f

def sampleResponses : List (ResponseCode SampleCommand) :=
  SampleCommand.all.map .Success ++ [.DeviceOK, .DeviceInvalidCommand, .DeviceInvalidData,
    .DeviceInvalidSession, .DeviceAuthFail, .DeviceSessionsFull, .DeviceSessionFailed,
    .DeviceStorageFailed, .DeviceWrongLength, .DeviceInvalidPermission, .DeviceLogFull,
    .DeviceObjNotFound, .DeviceIDIllegal, .DeviceInvalidOTP, .DeviceDemoMode,
    .DeviceCmdUnexecuted, .DeviceObjectExists, .MemoryError, .GenericError]

theorem mem_sampleResponses (r : ResponseCode SampleCommand) : r ∈ sampleResponses := by
  cases r
  case Success c => exact List.mem_append_left _ (List.mem_map_of_mem _ (SampleCommand.mem_all c))
  all_goals
    exact List.mem_append_right _ (by simp only [List.mem_cons, reduceCtorEq, or_true, true_or])

/-- Codes to instantiate the theorems at concrete inputs. -/
def Codes.sample : Codes SampleCommand where
  command := .ofList SampleCommand.all SampleCommand.toU8 (toString ∘ repr) (by decide)
    SampleCommand.mem_all
  response := .ofList sampleResponses sampleResponseToU8 (toString ∘ repr) (by decide)
    mem_sampleResponses
  CreateSession := .CreateSession
  AuthSession := .AuthSession
  SessionMessage := .SessionMessage
  createSession_toU8 := rfl
  authSession_toU8 := rfl
  sessionMessage_toU8 := rfl

end YubiHsm
