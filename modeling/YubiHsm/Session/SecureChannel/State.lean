import YubiHsm.Session.Message
import YubiHsm.Session.SecureChannel.Crypto

/-!
# The secure channel's state

`SecureChannel` of `securechannel/mod.rs`: the session ID, the message counter, the security
level, the context, the three session keys and the MAC chaining value, with `new`, the two
cryptograms, `terminate` and `increment_counter`.

A method on `&mut SecureChannel` is a function from the channel to an `Outcome`: `ok` with
the value it returns, or `error` with the `Err` it returns or the panic it hits, each with the
channel as the method left it. An `Err` keeps every change the method made before returning
it, exactly as a `&mut self` method does.
-/

namespace YubiHsm

/-- `MAX_COMMANDS_PER_SESSION`: 2^20, the maximum number of messages in one session. -/
def maxCommandsPerSession : UInt32 := 0x100000

theorem UInt32.lt_iff_toNat_lt (a b : UInt32) : a < b ↔ a.toNat < b.toNat := by
  simp [UInt32.lt_def, BitVec.lt_def, UInt32.toNat]

theorem UInt32.le_iff_toNat_le (a b : UInt32) : a ≤ b ↔ a.toNat ≤ b.toNat := by
  simp [UInt32.le_def, BitVec.le_def, UInt32.toNat]

theorem UInt32.toNat_add_one_of_lt {a : UInt32} (h : a.toNat + 1 < 2 ^ 32) :
    (a + 1).toNat = a.toNat + 1 := by
  show (a.toBitVec + 1#32).toNat = _
  rw [BitVec.toNat_add_of_lt] <;> simp_all [UInt32.toNat]

@[simp] theorem toNat_maxCommandsPerSession : maxCommandsPerSession.toNat = 2 ^ 20 := rfl

/-- Current security level: the protocol state. -/
inductive SecurityLevel where
  /-- `NO_SECURITY_LEVEL`: the session is not fully initialized. -/
  | None
  /-- `AUTHENTICATED`: the EXTERNAL_AUTHENTICATE command has completed. -/
  | Authenticated
  /-- Terminated: either explicitly closed or due to protocol error. -/
  | Terminated
  deriving DecidableEq, Repr

/-- The SCP03 secure channel. -/
structure SecureChannel where
  id : SessionId
  counter : UInt32
  securityLevel : SecurityLevel
  context : Context
  encKey : Block
  macKey : Block
  rmacKey : Block
  macChainingValue : Block
  deriving DecidableEq

/-- What a method on `&mut SecureChannel` ends in. -/
abbrev Outcome (α : Type) := EStateM.Result Fault SecureChannel α

/-- `?` on a result computed without the channel: its error is returned with the channel as
it stands. -/
def Outcome.ofExcept {α : Type} (self : SecureChannel) : Except Fault α → Outcome α
  | .ok a => .ok a self
  | .error e => .error e self

/-- The value and the channel an outcome returns, or its fault. -/
def Outcome.toExcept {α : Type} : Outcome α → Except Fault (α × SecureChannel)
  | .ok a self => .ok (a, self)
  | .error e _ => .error e

@[simp] theorem Outcome.toExcept_ok {α : Type} (a : α) (self : SecureChannel) :
    Outcome.toExcept (.ok a self) = .ok (a, self) := rfl

@[simp] theorem Outcome.ofExcept_ok {α : Type} (self : SecureChannel) (a : α) :
    Outcome.ofExcept self (.ok a) = .ok a self := rfl

@[simp] theorem Outcome.ofExcept_error {α : Type} (self : SecureChannel) (e : Fault) :
    Outcome.ofExcept (α := α) self (.error e) = .error e self := rfl

def Outcome.state {α : Type} : Outcome α → SecureChannel
  | .ok _ self | .error _ self => self

def Outcome.isOk {α : Type} : Outcome α → Bool
  | .ok _ _ => true
  | .error _ _ => false

def Outcome.panicked {α : Type} : Outcome α → Bool
  | .error (.panic _) _ => true
  | _ => false

def Outcome.discard {α : Type} : Outcome α → Outcome Unit
  | .ok _ self => .ok () self
  | .error e self => .error e self

section

variable {α : Type} (a : α) (e : Fault) (self : SecureChannel)

@[simp] theorem Outcome.state_ok : Outcome.state (.ok a self : Outcome α) = self := rfl
@[simp] theorem Outcome.state_error : Outcome.state (.error e self : Outcome α) = self := rfl
@[simp] theorem Outcome.isOk_ok : Outcome.isOk (.ok a self : Outcome α) = true := rfl
@[simp] theorem Outcome.isOk_error : Outcome.isOk (.error e self : Outcome α) = false := rfl

@[simp] theorem Outcome.state_ofExcept (x : Except Fault α) :
    Outcome.state (Outcome.ofExcept self x) = self := by
  cases x <;> rfl

@[simp] theorem Outcome.state_discard (o : Outcome α) : o.discard.state = o.state := by
  cases o <;> rfl

@[simp] theorem Outcome.isOk_discard (o : Outcome α) : o.discard.isOk = o.isOk := by
  cases o <;> rfl

@[simp] theorem Outcome.panicked_discard (o : Outcome α) : o.discard.panicked = o.panicked := by
  rcases o with ⟨_, _⟩ | ⟨_ | _, _⟩ <;> rfl

end

namespace SecureChannel

variable (aes : Aes128)

/-- `SecureChannel::new`: the session keys derived from the auth key and the two
challenges, a zero counter and chaining value, and no security level yet. -/
def new (id : SessionId) (authKey : AuthKey) (hostChallenge cardChallenge : Challenge) :
    SecureChannel :=
  let context := Context.fromChallenges hostChallenge cardChallenge
  { id
    counter := 0
    securityLevel := .None
    context
    encKey := deriveKey aes authKey.encKey 0b100 context
    macKey := deriveKey aes authKey.macKey 0b110 context
    rmacKey := deriveKey aes authKey.macKey 0b111 context
    macChainingValue := Bytes.zero 16 }

/-- `card_cryptogram`: the first eight bytes of the KDF at label 0 under S-MAC. -/
def cardCryptogram (self : SecureChannel) : Cryptogram :=
  Bytes.take cryptogramSize (by decide) (Kdf.derive aes self.macKey 0 self.context)

/-- `host_cryptogram`: the first eight bytes of the KDF at label 1 under S-MAC. -/
def hostCryptogram (self : SecureChannel) : Cryptogram :=
  Bytes.take cryptogramSize (by decide) (Kdf.derive aes self.macKey 1 self.context)

/-- `terminate`: the channel is terminated and its three session keys are zeroized. -/
def terminate (self : SecureChannel) : SecureChannel :=
  { self with
    securityLevel := .Terminated
    encKey := Bytes.zero 16
    macKey := Bytes.zero 16
    rmacKey := Bytes.zero 16 }

/-- `increment_counter`: `checked_add(1)`, with a panic on overflow. -/
def incrementCounter (self : SecureChannel) : Outcome Unit :=
  if self.counter.toNat + 1 < UInt32.size then .ok () { self with counter := self.counter + 1 }
  else .error (.panic "session counter overflowed!") self

/-- `fail!(kind, msg)` in a method of the channel. -/
def fail {α : Type} (self : SecureChannel) (kind : SessionErrorKind) (msg : String) :
    Outcome α :=
  .error (.err (err kind msg)) self

/-- A failed `assert_eq!`, `unwrap` or `expect`. -/
def panic {α : Type} (self : SecureChannel) (msg : String) : Outcome α :=
  .error (.panic msg) self

/-! ## Small lemmas -/

def KeysZeroized (self : SecureChannel) : Prop :=
  self.encKey = Bytes.zero 16 ∧ self.macKey = Bytes.zero 16 ∧ self.rmacKey = Bytes.zero 16

instance (self : SecureChannel) : Decidable self.KeysZeroized :=
  inferInstanceAs (Decidable (_ ∧ _ ∧ _))

@[simp] theorem terminate_securityLevel (self : SecureChannel) :
    self.terminate.securityLevel = .Terminated := rfl

@[simp] theorem terminate_id (self : SecureChannel) : self.terminate.id = self.id := rfl

@[simp] theorem terminate_counter (self : SecureChannel) :
    self.terminate.counter = self.counter := rfl

@[simp] theorem terminate_macChainingValue (self : SecureChannel) :
    self.terminate.macChainingValue = self.macChainingValue := rfl

theorem terminate_keysZeroized (self : SecureChannel) : self.terminate.KeysZeroized :=
  ⟨rfl, rfl, rfl⟩

@[simp] theorem new_counter (id : SessionId) (authKey : AuthKey) (hc cc : Challenge) :
    (new aes id authKey hc cc).counter = 0 := rfl

@[simp] theorem new_securityLevel (id : SessionId) (authKey : AuthKey) (hc cc : Challenge) :
    (new aes id authKey hc cc).securityLevel = .None := rfl

@[simp] theorem new_macChainingValue (id : SessionId) (authKey : AuthKey) (hc cc : Challenge) :
    (new aes id authKey hc cc).macChainingValue = Bytes.zero 16 := rfl

/-- `increment_counter` adds one, unless the counter is at `u32::MAX`, where it panics. -/
theorem incrementCounter_eq (self : SecureChannel) :
    self.incrementCounter =
      if self.counter.toNat < 0xFFFFFFFF then .ok () { self with counter := self.counter + 1 }
      else .error (.panic "session counter overflowed!") self := by
  simp only [incrementCounter, UInt32.size]
  congr 1
  simp only [eq_iff_iff]
  omega

/-- A channel fresh from `SecureChannel::new` at the sample primitives and auth key, session 0
and zero challenges, as the tests' `create_channel_pair` builds it. -/
def sample : SecureChannel :=
  new Aes128.sample ⟨0, by decide⟩ AuthKey.sample (Bytes.zero 8) (Bytes.zero 8)

end SecureChannel

end YubiHsm
