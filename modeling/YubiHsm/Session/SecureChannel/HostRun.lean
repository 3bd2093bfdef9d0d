import YubiHsm.Session.SecureChannel.Host

/-!
# Runs of the host's side of the channel

A run is a list of calls of the host's methods on one channel, each with its input, in any
order: `authenticate_session`, `finish_authenticate_session`, `command_with_mac`,
`encrypt_command`, `verify_response_mac` and `decrypt_response`. A call that returns `Ok` or
`Err` leaves the channel to the next one; a panic ends the run.

Two side conditions on runs count events: a successful `command_with_mac` (directly or inside
`authenticate_session` or `encrypt_command`), and a successful `verify_response_mac` (directly
or inside `decrypt_response`).

* `counter_le_maxCommandsPerSession`: in a run from `SecureChannel::new` that accepts at most one
  response per successful command, every channel has `counter ≤ MAX_COMMANDS_PER_SESSION`, so
  the `checked_add` of `increment_counter` never overflows. The proof is one step lemma
  (`CounterInv.call`), from the counter each method leaves (`counter_call`), and an induction
  over the run.
* `icvCounters` lists the counters the successful `encrypt_command` calls of a run hand to
  `compute_icv`.
-/

namespace YubiHsm

/-- A call of one of the host's methods, with its input. -/
inductive HostCall (CommandCode : Type) where
  | authenticateSession
  | finishAuthenticateSession (response : ResponseMessage CommandCode)
  | commandWithMac (commandType : CommandCode) (commandData : List UInt8)
  | encryptCommand (command : CommandMessage CommandCode)
  | verifyResponseMac (response : ResponseMessage CommandCode)
  | decryptResponse (response : ResponseMessage CommandCode)

namespace HostCall

variable (aes : Aes128) {CommandCode : Type} [DecidableEq CommandCode] (codes : Codes CommandCode)

/-- The call on a channel, its value dropped. -/
def call (s : SecureChannel) : HostCall CommandCode → Outcome Unit
  | authenticateSession => (s.authenticateSession aes codes).discard
  | finishAuthenticateSession response => s.finishAuthenticateSession response
  | commandWithMac commandType commandData =>
    (s.commandWithMac aes codes commandType commandData).discard
  | encryptCommand command => (s.encryptCommand aes codes command).discard
  | verifyResponseMac response => s.verifyResponseMac aes codes response
  | decryptResponse response => (s.decryptResponse aes codes response).discard

/-- Did the call's `command_with_mac` return `Ok`? It is the last step of
`authenticate_session` and of `encrypt_command`, so these succeed exactly when it does. -/
def commandSucceeded (s : SecureChannel) (c : HostCall CommandCode) : Bool :=
  match c with
  | authenticateSession | commandWithMac .. | encryptCommand _ => Outcome.isOk (c.call aes codes s)
  | _ => false

/-- Did the call's `verify_response_mac` return `Ok`? -/
def verifySucceeded (s : SecureChannel) : HostCall CommandCode → Bool
  | verifyResponseMac response => Outcome.isOk (s.verifyResponseMac aes codes response)
  | decryptResponse response =>
    s.securityLevel = .Authenticated && Outcome.isOk (s.verifyResponseMac aes codes response)
  | _ => false

/-- Was the call a successful `encrypt_command`? -/
def encryptSucceeded (s : SecureChannel) (c : HostCall CommandCode) : Bool :=
  match c with
  | encryptCommand _ => Outcome.isOk (c.call aes codes s)
  | _ => false

theorem verifySucceeded_of_commandSucceeded {s : SecureChannel} {c : HostCall CommandCode}
    (h : c.commandSucceeded aes codes s = true) : c.verifySucceeded aes codes s = false := by
  cases c <;> simp_all [commandSucceeded, verifySucceeded]

theorem lt_of_commandSucceeded {s : SecureChannel} {c : HostCall CommandCode}
    (h : c.commandSucceeded aes codes s = true) : s.counter < maxCommandsPerSession := by
  cases c with
  | authenticateSession =>
    rcases s.authenticateSession_cases aes codes with ⟨msg, h'⟩ | h'
    · simp [commandSucceeded, call, h', SecureChannel.panic] at h
    · simp only [commandSucceeded, call, h', Outcome.isOk_discard] at h
      exact SecureChannel.lt_of_commandWithMac_isOk aes codes h
  | commandWithMac =>
    simp only [commandSucceeded, call, Outcome.isOk_discard] at h
    exact SecureChannel.lt_of_commandWithMac_isOk aes codes h
  | encryptCommand command =>
    rcases s.encryptCommand_cases aes codes command with ⟨msg, h'⟩ | h'
    · simp [commandSucceeded, call, h', SecureChannel.panic] at h
    · simp only [commandSucceeded, call, h', Outcome.isOk_discard] at h
      exact SecureChannel.lt_of_commandWithMac_isOk aes codes h
  | _ => simp [commandSucceeded] at h

/-- The counter a call leaves: 1 after `finish_authenticate_session`, one more after a
successful `verify_response_mac`, and the same otherwise. -/
theorem counter_call (s : SecureChannel) (c : HostCall CommandCode) :
    (Outcome.state (c.call aes codes s)).counter.toNat = 1 ∨
      (Outcome.state (c.call aes codes s)).counter.toNat =
        s.counter.toNat + if c.verifySucceeded aes codes s then 1 else 0 := by
  cases c with
  | authenticateSession =>
    rcases s.authenticateSession_cases aes codes with ⟨msg, h⟩ | h <;>
      simp [call, verifySucceeded, h, SecureChannel.panic]
  | finishAuthenticateSession response =>
    by_cases hd : response.data = []
    · simp [call, SecureChannel.finishAuthenticateSession_of_isEmpty hd]
    · obtain ⟨e, h⟩ :
          ∃ e, s.finishAuthenticateSession response = .error (.err e) s.terminate :=
        SecureChannel.finishAuthenticateSession_of_ne_nil hd
      simp [call, verifySucceeded, h]
  | commandWithMac => simp [call, verifySucceeded]
  | encryptCommand command =>
    rcases s.encryptCommand_cases aes codes command with ⟨msg, h⟩ | h <;>
      simp [call, verifySucceeded, h, SecureChannel.panic]
  | verifyResponseMac response =>
    rcases s.verifyResponseMac_cases aes codes response with ⟨hok, hc⟩ | ⟨hc, h⟩
    · simp [call, verifySucceeded, hok, hc]
    · simp [call, verifySucceeded, h,
        UInt32.toNat_add_one_of_lt (show s.counter.toNat + 1 < 2 ^ 32 by omega)]
  | decryptResponse response =>
    right
    simp only [call, verifySucceeded, Outcome.state_discard, s.decryptResponse_counter aes codes,
      Bool.and_eq_true, decide_eq_true_eq]

end HostCall

/-! ## Runs -/

section

variable (aes : Aes128) {CommandCode : Type} [DecidableEq CommandCode] (codes : Codes CommandCode)

/-- The channels a run passes through, the first one included. A panic ends the run. -/
def states (s : SecureChannel) : List (HostCall CommandCode) → List SecureChannel
  | [] => [s]
  | c :: cs =>
    s :: if Outcome.panicked (c.call aes codes s) then []
      else states (Outcome.state (c.call aes codes s)) cs

/-- Runs in which `verify_response_mac` succeeds at most once after each successful
`command_with_mac`: no response is accepted without a fresh command. `pending` says that a
command is waiting for its response. -/
def OneResponsePerCommand (pending : Bool) (s : SecureChannel) :
    List (HostCall CommandCode) → Bool
  | [] => true
  | c :: cs =>
    (!c.verifySucceeded aes codes s || pending) &&
      (Outcome.panicked (c.call aes codes s) ||
        OneResponsePerCommand
          (c.commandSucceeded aes codes s || pending && !c.verifySucceeded aes codes s)
          (Outcome.state (c.call aes codes s)) cs)

/-- The counters that the successful `encrypt_command` calls of a run hand to `compute_icv`. -/
def icvCounters (s : SecureChannel) : List (HostCall CommandCode) → List UInt32
  | [] => []
  | c :: cs =>
    (if c.encryptSucceeded aes codes s then [s.counter] else []) ++
      if Outcome.panicked (c.call aes codes s) then []
      else icvCounters (Outcome.state (c.call aes codes s)) cs

/-- Runs in which every two successful `encrypt_command` calls have a successful
`verify_response_mac` between them. `sent` says that an encrypted command has had no
verified response yet. -/
def ResponseBetweenCommands (sent : Bool) (s : SecureChannel) :
    List (HostCall CommandCode) → Bool
  | [] => true
  | c :: cs =>
    (!c.encryptSucceeded aes codes s || !sent) &&
      (Outcome.panicked (c.call aes codes s) ||
        ResponseBetweenCommands
          (c.encryptSucceeded aes codes s || sent && !c.verifySucceeded aes codes s)
          (Outcome.state (c.call aes codes s)) cs)

/-- **The ICV of counter 1 is used twice.** `finish_authenticate_session` asserts nothing about
the security level, so calling it again on an authenticated channel sets the counter back to
1. In this run a verified response separates the two successful `encrypt_command` calls, and
both hand counter 1 to `compute_icv`: two commands are encrypted under one S-ENC key with one
CBC ICV. -/
theorem icvCounters_repeat :
    ResponseBetweenCommands Aes128.sample Codes.sample false SecureChannel.sample
        [.finishAuthenticateSession ⟨.Success .AuthSession, none, [], none⟩,
          .encryptCommand ⟨.Echo, none, [], none⟩,
          .verifyResponseMac ⟨.Success .SessionMessage, some ⟨0, by decide⟩, [],
            some (Mac.ofTag AuthKey.sample.macKey)⟩,
          .finishAuthenticateSession ⟨.Success .AuthSession, none, [], none⟩,
          .encryptCommand ⟨.Echo, none, [], none⟩] = true ∧
      icvCounters Aes128.sample Codes.sample SecureChannel.sample
        [.finishAuthenticateSession ⟨.Success .AuthSession, none, [], none⟩,
          .encryptCommand ⟨.Echo, none, [], none⟩,
          .verifyResponseMac ⟨.Success .SessionMessage, some ⟨0, by decide⟩, [],
            some (Mac.ofTag AuthKey.sample.macKey)⟩,
          .finishAuthenticateSession ⟨.Success .AuthSession, none, [], none⟩,
          .encryptCommand ⟨.Echo, none, [], none⟩] = [1, 1] := by
  decide

/-! ## The counter bound -/

/-- The invariant of runs with one response per command: the counter is at most
`MAX_COMMANDS_PER_SESSION`, and below it while a command waits for its response. -/
structure CounterInv (pending : Bool) (s : SecureChannel) : Prop where
  le_max : s.counter.toNat ≤ maxCommandsPerSession.toNat
  lt_max_of_pending : pending = true → s.counter.toNat < maxCommandsPerSession.toNat

/-- One call keeps the invariant, if it accepts a response only while a command waits. -/
theorem CounterInv.call {pending : Bool} {s : SecureChannel} (hi : CounterInv pending s)
    (c : HostCall CommandCode) (hv : c.verifySucceeded aes codes s = true → pending = true) :
    CounterInv (c.commandSucceeded aes codes s || pending && !c.verifySucceeded aes codes s)
      (Outcome.state (c.call aes codes s)) := by
  have ⟨hle, hlt⟩ := hi
  have hmax := toNat_maxCommandsPerSession
  rcases c.counter_call aes codes s with h1 | h
  · exact ⟨by omega, fun _ => by omega⟩
  · cases hcs : c.commandSucceeded aes codes s
    · cases hvs : c.verifySucceeded aes codes s
      · simp only [hvs, Bool.false_eq_true, ↓reduceIte] at h
        exact ⟨by omega, fun hp => by have := hlt (by simpa using hp); omega⟩
      · simp only [hvs, ↓reduceIte] at h
        have := hlt (hv hvs)
        exact ⟨by omega, fun hp => by simp at hp⟩
    · have hc := c.lt_of_commandSucceeded aes codes hcs
      rw [UInt32.lt_iff_toNat_lt] at hc
      simp only [c.verifySucceeded_of_commandSucceeded aes codes hcs, Bool.false_eq_true,
        ↓reduceIte] at h
      exact ⟨by omega, fun _ => by omega⟩

/-- Along a run with one response per command, every channel keeps the invariant. -/
theorem CounterInv.run {pending : Bool} {s : SecureChannel} {cs : List (HostCall CommandCode)}
    (hi : CounterInv pending s) (h : OneResponsePerCommand aes codes pending s cs = true) :
    ∀ s' ∈ states aes codes s cs, s'.counter.toNat ≤ maxCommandsPerSession.toNat := by
  induction cs generalizing pending s with
  | nil => simpa [states] using hi.le_max
  | cons c cs ih =>
    simp only [OneResponsePerCommand, Bool.and_eq_true, Bool.or_eq_true, Bool.not_eq_true'] at h
    obtain ⟨hv, h⟩ := h
    intro s' hs'
    simp only [states, List.mem_cons] at hs'
    rcases hs' with rfl | hs'
    · exact hi.le_max
    · split_ifs at hs' with hp
      · simp at hs'
      · exact ih (hi.call aes codes c fun hvs => by simpa [hvs] using hv) (h.resolve_left hp)
          s' hs'

/-- **The counter bound.** In every run from `SecureChannel::new` that accepts at most one
response after each successful command, every channel has `counter ≤ MAX_COMMANDS_PER_SESSION`,
and `increment_counter` on it adds one without reaching its overflow panic. -/
theorem counter_le_maxCommandsPerSession (id : SessionId) (authKey : AuthKey)
    (hostChallenge cardChallenge : Challenge) (calls : List (HostCall CommandCode))
    (h : OneResponsePerCommand aes codes false
      (SecureChannel.new aes id authKey hostChallenge cardChallenge) calls = true) :
    ∀ s ∈ states aes codes (SecureChannel.new aes id authKey hostChallenge cardChallenge) calls,
      s.counter ≤ maxCommandsPerSession ∧
        s.incrementCounter = .ok () { s with counter := s.counter + 1 } := by
  intro s hs
  have hle := CounterInv.run aes codes ⟨by simp, by simp⟩ h s hs
  rw [toNat_maxCommandsPerSession] at hle
  refine ⟨by rw [UInt32.le_iff_toNat_le, toNat_maxCommandsPerSession]; exact hle, ?_⟩
  rw [SecureChannel.incrementCounter_eq, if_pos (by omega)]

/-- A run of the sample channel: the handshake, one command and one response. -/
theorem counter_le_maxCommandsPerSession_sample :
    OneResponsePerCommand Aes128.sample Codes.sample false SecureChannel.sample
        [.authenticateSession,
          .finishAuthenticateSession ⟨.Success .AuthSession, none, [], none⟩,
          .commandWithMac .Echo [1],
          .verifyResponseMac ⟨.Success .Echo, some ⟨0, by decide⟩, [],
            some (Mac.ofTag AuthKey.sample.macKey)⟩] = true ∧
      ∀ s ∈ states Aes128.sample Codes.sample SecureChannel.sample
        [.authenticateSession,
          .finishAuthenticateSession ⟨.Success .AuthSession, none, [], none⟩,
          .commandWithMac .Echo [1],
          .verifyResponseMac ⟨.Success .Echo, some ⟨0, by decide⟩, [],
            some (Mac.ofTag AuthKey.sample.macKey)⟩],
        s.counter ≤ maxCommandsPerSession ∧
          s.incrementCounter = .ok () { s with counter := s.counter + 1 } :=
  ⟨by decide, counter_le_maxCommandsPerSession Aes128.sample Codes.sample _ _ _ _ _ (by decide)⟩

end

end YubiHsm
