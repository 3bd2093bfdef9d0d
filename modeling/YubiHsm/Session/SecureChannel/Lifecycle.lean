import YubiHsm.Session.SecureChannel.Card
import YubiHsm.Session.SecureChannel.HostRun

/-!
# The life cycle of a channel

The spec's life cycle is `None → Authenticated → Terminated` (or `None → Terminated`): every
integrity, length or parse failure terminates the channel and zeroizes its keys, and a
terminated channel sends and accepts nothing. This file has the operations of
`SecureChannel`, host and card, as one type `Operation`, the channels `Reachable` from
`SecureChannel::new` by operations that return, and what every operation leaves: `Contained`
says that the result keeps the session ID, context and keys or zeroizes the keys, and that an
`Err` terminates the channel or is one of the operation's `OpenError`s, a `ProtocolError` that
keeps it as it was (`Operation.call_contained`). The open errors are few: `new_with_mac`
rejecting the data of `command_with_mac`, and the parser rejecting a decrypted payload. From
it, over every operation and every run:

* `err_terminates_or_keeps_level`: what an `Err` leaves;
* `reachable_keys`: along every run from `SecureChannel::new` the session ID and context stay,
  and the keys are the session keys derived there or zero;
* `terminated_stays_terminated`: only `finish_authenticate_session` leaves the terminated state.

The spec's life cycle is also an abstract machine, `LifeCycleStep`, on security levels: every
operation moves the level by one of its steps, except `finish_authenticate_session` on a
terminated channel (`Operation.call_lifeCycleStep`), and runs that never call it there follow
the life cycle (`lifeCycle_run`).

Two runs of the code leave the spec's life cycle:

* `encryptCommand_error_leaves_channel_open`: `encrypt_command` of a command that
  `CommandMessage::new` accepted returns `Err`, because its ciphertext is too long for
  `new_with_mac`, and the channel stays authenticated with its keys, its chaining value
  already overwritten;
* `finishAuthenticateSession_revives_terminated`: on a terminated channel `command_with_mac`
  still returns a command MACed under the zeroized key, and `finish_authenticate_session`
  returns `Ok` and makes the channel authenticated again.
-/

namespace YubiHsm

/-- An operation of `SecureChannel` with its input: one of the host's, or one of the card's. -/
inductive Operation (CommandCode : Type) where
  | host (call : HostCall CommandCode)
  | verifyAuthenticateSession (command : CommandMessage CommandCode)
  | decryptCommand (command : CommandMessage CommandCode)
  | verifyCommandMac (command : CommandMessage CommandCode)
  | encryptResponse (response : ResponseMessage CommandCode)
  | responseWithMac (code : ResponseCode CommandCode) (responseData : List UInt8)

section

variable (aes : Aes128) {CommandCode : Type} [DecidableEq CommandCode] (codes : Codes CommandCode)

/-- The operation on a channel, its value dropped. -/
def Operation.call (s : SecureChannel) : Operation CommandCode → Outcome Unit
  | host c => c.call aes codes s
  | verifyAuthenticateSession command => (s.verifyAuthenticateSession aes codes command).discard
  | decryptCommand command => (s.decryptCommand aes codes command).discard
  | verifyCommandMac command => s.verifyCommandMac aes codes command
  | encryptResponse response => (s.encryptResponse aes codes response).discard
  | responseWithMac code responseData => (s.responseWithMac aes codes code responseData).discard

/-- The `Err` of `new_with_mac` on command data longer than `MAX_MSG_SIZE`. -/
def DataTooLong (commandData : List UInt8) (e : SessionError) : Prop :=
  maxMsgSize < commandData.length ∧ e = err .ProtocolError ("command data too long: " ++
    toString commandData.length ++ " bytes (max " ++ toString maxMsgSize ++ ")")

/-- The `Err`s an operation may return without terminating the channel: `new_with_mac`
rejecting the data `command_with_mac` was given, and the parser rejecting the payload that
the channel decrypted under the ICV of its counter. -/
def Operation.OpenError (s : SecureChannel) : Operation CommandCode → SessionError → Prop
  | host .authenticateSession => DataTooLong (s.hostCryptogram aes).toList
  | host (.commandWithMac _ commandData) => DataTooLong commandData
  | host (.encryptCommand command) =>
    DataTooLong (encryptPad aes s.encKey (computeIcv aes s.encKey s.counter) (command.into codes))
  | host (.decryptResponse response) => fun e =>
    ∃ message, decryptPad aes s.encKey (computeIcv aes s.encKey s.counter) response.data =
      some message ∧ ResponseMessage.parse codes message = .error (.err e)
  | decryptCommand command => fun e =>
    ∃ message, decryptPad aes s.encKey (computeIcv aes s.encKey s.counter) command.data =
      some message ∧ CommandMessage.parse codes message = .error (.err e)
  | _ => fun _ => False

/-- The channels reachable from `SecureChannel::new` by operations that return `Ok` or `Err`. -/
inductive Reachable : SecureChannel → Prop
  | new (id : SessionId) (authKey : AuthKey) (hostChallenge cardChallenge : Challenge) :
    Reachable (SecureChannel.new aes id authKey hostChallenge cardChallenge)
  | step {s : SecureChannel} (op : Operation CommandCode) (h : Reachable s)
    (hp : Outcome.panicked (op.call aes codes s) = false) :
    Reachable (Outcome.state (op.call aes codes s))

/-- The sample channel after `finish_authenticate_session` accepted an empty response. -/
theorem reachable_sample_authenticated :
    Reachable Aes128.sample Codes.sample
      { SecureChannel.sample with securityLevel := .Authenticated, counter := 1 } :=
  .step (.host (.finishAuthenticateSession ⟨.Success .AuthSession, none, [], none⟩))
    (.new _ _ _ _) rfl

/-- The sample channel after `finish_authenticate_session` rejected a nonempty response. -/
theorem reachable_sample_terminate :
    Reachable Aes128.sample Codes.sample SecureChannel.sample.terminate :=
  .step (.host (.finishAuthenticateSession ⟨.Success .AuthSession, none, [0], none⟩))
    (.new _ _ _ _) rfl

end

/-! ## What every operation leaves -/

namespace SecureChannel

/-- `s'` keeps the session ID, context and keys of `s`, or has its keys zeroized. -/
def Frame (s s' : SecureChannel) : Prop :=
  s'.id = s.id ∧ s'.context = s.context ∧
    ((s'.encKey = s.encKey ∧ s'.macKey = s.macKey ∧ s'.rmacKey = s.rmacKey) ∨ s'.KeysZeroized)

/-- Every `Err` an outcome from `s` ends in terminates the channel, or is one that
`leavesOpen` allows: a `ProtocolError` that leaves the security level and keys of `s`. -/
def FailsClosed {α : Type} (s : SecureChannel) (leavesOpen : SessionError → Prop)
    (o : Outcome α) : Prop :=
  ∀ e s', o = .error (.err e) s' →
    (s'.securityLevel = .Terminated ∧ s'.KeysZeroized) ∨
      (leavesOpen e ∧ e.kind = .ProtocolError ∧ s'.securityLevel = s.securityLevel ∧
        s'.encKey = s.encKey ∧ s'.macKey = s.macKey ∧ s'.rmacKey = s.rmacKey)

/-- What an outcome from `s` may do to the channel, the `Err`s that may leave it open being
those `leavesOpen` allows. A method whose lemma holds for every `leavesOpen`, or for
`fun _ => False`, terminates the channel on every `Err`. -/
structure Contained {α : Type} (s : SecureChannel) (leavesOpen : SessionError → Prop)
    (o : Outcome α) : Prop where
  frame : Frame s (Outcome.state o)
  failsClosed : FailsClosed s leavesOpen o

theorem Frame.refl (s : SecureChannel) : Frame s s := ⟨rfl, rfl, .inl ⟨rfl, rfl, rfl⟩⟩

theorem Frame.trans {s s' s'' : SecureChannel} (h : Frame s s') (h' : Frame s' s'') :
    Frame s s'' := by
  obtain ⟨hi, hc, hk⟩ := h
  obtain ⟨hi', hc', hk'⟩ := h'
  refine ⟨hi'.trans hi, hc'.trans hc, ?_⟩
  rcases hk' with ⟨he, hm, hr⟩ | hz
  · rcases hk with ⟨he', hm', hr'⟩ | ⟨he', hm', hr'⟩
    · exact .inl ⟨he.trans he', hm.trans hm', hr.trans hr'⟩
    · exact .inr ⟨he.trans he', hm.trans hm', hr.trans hr'⟩
  · exact .inr hz

/-- A frame keeps zeroized keys zeroized. -/
theorem Frame.keysZeroized {s s' : SecureChannel} (h : Frame s s') (hk : s.KeysZeroized) :
    s'.KeysZeroized := by
  rcases h.2.2 with ⟨he, hm, hr⟩ | hz
  · simpa only [KeysZeroized, he, hm, hr] using hk
  · exact hz

/-- A channel that agrees with `s` on the session ID, context and keys is in its frame. -/
theorem Frame.of_eq {s s' : SecureChannel}
    (h : s' = { s' with
      id := s.id, context := s.context, encKey := s.encKey, macKey := s.macKey,
      rmacKey := s.rmacKey }) :
    Frame s s' := by
  rw [h]
  exact ⟨rfl, rfl, .inl ⟨rfl, rfl, rfl⟩⟩

section

variable {leavesOpen : SessionError → Prop}

/-- An `Ok` that leaves a channel in the frame of `s`. -/
theorem Contained.ok {α : Type} {s s' : SecureChannel} (a : α) (h : Frame s s') :
    Contained s leavesOpen (.ok a s' : Outcome α) :=
  ⟨h, fun _ _ h => by cases h⟩

/-- A panic leaves the channel as it was. -/
theorem Contained.panic {α : Type} (s : SecureChannel) (msg : String) :
    Contained s leavesOpen (s.panic msg : Outcome α) :=
  ⟨Frame.of_eq rfl, fun _ _ h => by cases h⟩

/-- `self.terminate(); fail!(..)`, on `s` or on a channel in its frame. -/
theorem Contained.terminate_fail {α : Type} {s s' : SecureChannel} (h : Frame s s')
    (kind : SessionErrorKind) (msg : String) :
    Contained s leavesOpen (s'.terminate.fail kind msg : Outcome α) :=
  ⟨⟨h.1, h.2.1, .inr s'.terminate_keysZeroized⟩, fun _ _ h => by
    cases h; exact .inl ⟨rfl, s'.terminate_keysZeroized⟩⟩

theorem Contained.incrementCounter (s : SecureChannel) :
    Contained s leavesOpen s.incrementCounter := by
  rw [incrementCounter_eq]
  split_ifs
  · exact .ok _ (Frame.of_eq rfl)
  · exact .panic s _

/-- An outcome that passes on an outcome from a channel contained from `s`. -/
theorem Contained.of_error {α β : Type} {s s' : SecureChannel} {o : Outcome α}
    (h : Contained s leavesOpen o) {e : Fault} (he : o = .error e s') :
    Contained s leavesOpen (.error e s' : Outcome β) := by
  subst he
  exact ⟨h.frame, fun e' s'' h' => h.failsClosed e' s'' (by cases h'; rfl)⟩

theorem Contained.mono {α : Type} {s : SecureChannel} {o : Outcome α}
    {leavesOpen' : SessionError → Prop} (h : Contained s leavesOpen o)
    (hle : ∀ e, leavesOpen e → leavesOpen' e) : Contained s leavesOpen' o :=
  ⟨h.frame, fun e s' he => (h.failsClosed e s' he).imp_right fun ⟨ho, hr⟩ => ⟨hle e ho, hr⟩⟩

/-- `?` on the parse of a decrypted payload, after the channel moved only its counter and
chaining value: an `Err` is the parser's `ProtocolError`, which `leavesOpen` must allow. -/
theorem Contained.ofExcept {α β : Type} {s s' : SecureChannel}
    (hs : s' = { s with counter := s'.counter, macChainingValue := s'.macChainingValue })
    {x : Except Fault β} (hx : FailsWith .ProtocolError x)
    (hopen : ∀ e, x = .error (.err e) → leavesOpen e) (f : β → α) :
    Contained s leavesOpen (Outcome.ofExcept s' (x.map f)) := by
  rw [hs]
  refine ⟨by rw [Outcome.state_ofExcept]; exact .of_eq rfl, fun e s'' h => .inr ?_⟩
  cases x with
  | ok => simp [Except.map, Outcome.ofExcept] at h
  | error fl =>
    obtain ⟨msg, rfl⟩ := hx fl rfl
    simp only [Except.map, Outcome.ofExcept, EStateM.Result.error.injEq, Fault.err.injEq] at h
    obtain ⟨rfl, rfl⟩ := h
    exact ⟨hopen _ rfl, by simp [err]⟩

end

variable (aes : Aes128) {CommandCode : Type} (codes : Codes CommandCode)

theorem commandWithMac_contained (s : SecureChannel) (c : CommandCode) (d : List UInt8) :
    Contained s (DataTooLong d) (s.commandWithMac aes codes c d) := by
  unfold commandWithMac CommandMessage.newWithMac
  split_ifs with _ hd
  · exact .terminate_fail (.of_eq rfl) _ _
  · exact .ok _ (Frame.of_eq rfl)
  · refine ⟨Frame.of_eq rfl, fun e s' h => .inr ?_⟩
    simp only [liftErr, Except.mapError, Outcome.ofExcept, EStateM.Result.error.injEq,
      Fault.err.injEq] at h
    obtain ⟨rfl, rfl⟩ := h
    exact ⟨⟨by omega, rfl⟩, rfl, rfl, rfl, rfl, rfl⟩

theorem authenticateSession_contained (s : SecureChannel) :
    Contained s (DataTooLong (s.hostCryptogram aes).toList) (s.authenticateSession aes codes) := by
  rcases s.authenticateSession_cases aes codes with ⟨msg, h⟩ | h <;> rw [h]
  · exact .panic s _
  · exact commandWithMac_contained aes codes s _ _

theorem finishAuthenticateSession_contained (s : SecureChannel) (r : ResponseMessage CommandCode) :
    Contained s (fun _ => False) (s.finishAuthenticateSession r) := by
  unfold finishAuthenticateSession
  split_ifs
  · exact .terminate_fail (.of_eq rfl) _ _
  · exact .ok _ (Frame.of_eq rfl)

theorem encryptCommand_contained (s : SecureChannel) (command : CommandMessage CommandCode) :
    Contained s
      (DataTooLong (encryptPad aes s.encKey (computeIcv aes s.encKey s.counter)
        (command.into codes)))
      (s.encryptCommand aes codes command) := by
  rcases s.encryptCommand_cases aes codes command with ⟨msg, h⟩ | h <;> rw [h]
  · exact .panic s _
  · exact commandWithMac_contained aes codes s _ _

theorem verifyResponseMac_contained (s : SecureChannel) (r : ResponseMessage CommandCode) :
    Contained s (fun _ => False) (s.verifyResponseMac aes codes r) := by
  unfold verifyResponseMac
  split_ifs
  · exact .panic s _
  split
  · exact .terminate_fail (.of_eq rfl) _ _
  split_ifs
  · exact .terminate_fail (.of_eq rfl) _ _
  split
  · exact .panic s _
  split_ifs
  · exact .terminate_fail (.of_eq rfl) _ _
  · exact .incrementCounter s

variable [DecidableEq CommandCode] in
theorem decryptResponse_contained (s : SecureChannel) (r : ResponseMessage CommandCode) :
    Contained s
      (fun e => ∃ message, decryptPad aes s.encKey (computeIcv aes s.encKey s.counter) r.data =
        some message ∧ ResponseMessage.parse codes message = .error (.err e))
      (s.decryptResponse aes codes r) := by
  by_cases hl : s.securityLevel = .Authenticated
  · rw [decryptResponse_of_authenticated aes codes hl]
    rcases s.verifyResponseMac_cases aes codes r with ⟨hok, -⟩ | ⟨hc, h⟩
    · have hv := verifyResponseMac_contained aes codes s r
      revert hok hv
      cases s.verifyResponseMac aes codes r with
      | ok => simp
      | error e s' => exact fun _ hv => (hv.of_error rfl).mono fun _ => False.elim
    · rw [h]
      dsimp only
      split
      · exact .terminate_fail (.of_eq rfl) _ _
      · next message hd =>
        exact .ofExcept rfl (ResponseMessage.parse_failsWith codes _) (fun e he => ⟨_, hd, he⟩) _
  · rw [decryptResponse, if_pos hl]
    exact .panic s _

theorem verifyCommandMac_contained (s : SecureChannel) (command : CommandMessage CommandCode) :
    Contained s (fun _ => False) (s.verifyCommandMac aes codes command) := by
  unfold verifyCommandMac
  split
  · exact .panic s _
  split_ifs
  · exact .panic s _
  split
  · exact .panic s _
  dsimp only
  split_ifs
  · exact .terminate_fail (.of_eq rfl) _ _
  · exact .ok _ (Frame.of_eq rfl)

theorem verifyAuthenticateSession_contained (s : SecureChannel)
    (command : CommandMessage CommandCode) :
    Contained s (fun _ => False) (s.verifyAuthenticateSession aes codes command) := by
  unfold verifyAuthenticateSession
  split
  · exact .panic s _
  split
  · exact .panic s _
  split
  · dsimp only
    split
    · exact .terminate_fail (.of_eq rfl) _ _
    · have hv := verifyCommandMac_contained aes codes s command
      revert hv
      cases s.verifyCommandMac aes codes command with
      | ok _ s' => exact fun hv => .ok _ (hv.frame.trans (Frame.of_eq rfl))
      | error e s' => exact fun hv => hv.of_error rfl
  · exact .terminate_fail (.of_eq rfl) _ _

theorem responseWithMac_contained (s : SecureChannel) (code : ResponseCode CommandCode)
    (body : List UInt8) :
    Contained s (fun _ => False) (s.responseWithMac aes codes code body) := by
  unfold responseWithMac
  split_ifs
  · exact .panic s _
  · have hv : Contained s (fun _ => False) s.incrementCounter := .incrementCounter s
    revert hv
    cases s.incrementCounter with
    | ok _ s' => exact fun hv => .ok _ hv.frame
    | error e s' => exact fun hv => hv.of_error rfl

theorem encryptResponse_contained (s : SecureChannel) (response : ResponseMessage CommandCode) :
    Contained s (fun _ => False) (s.encryptResponse aes codes response) := by
  unfold encryptResponse
  split_ifs
  · exact .panic s _
  · exact responseWithMac_contained aes codes s _ _

theorem verifyCommandMac_ok {s s' : SecureChannel} {command : CommandMessage CommandCode}
    (h : s.verifyCommandMac aes codes command = .ok () s') :
    s' = { s with macChainingValue := s'.macChainingValue } := by
  obtain ⟨-, -, rfl⟩ := (verifyCommandMac_eq_ok_iff aes codes).mp h
  rfl

variable [DecidableEq CommandCode] in
theorem decryptCommand_contained (s : SecureChannel) (command : CommandMessage CommandCode) :
    Contained s
      (fun e => ∃ message, decryptPad aes s.encKey (computeIcv aes s.encKey s.counter)
        command.data = some message ∧ CommandMessage.parse codes message = .error (.err e))
      (s.decryptCommand aes codes command) := by
  unfold decryptCommand
  split
  · exact .panic s _
  dsimp only
  have hv := verifyCommandMac_contained aes codes s command
  have hok : ∀ s', s.verifyCommandMac aes codes command = .ok () s' →
      s' = { s with macChainingValue := s'.macChainingValue } :=
    fun _ => verifyCommandMac_ok aes codes
  revert hv hok
  cases s.verifyCommandMac aes codes command with
  | error e s' => exact fun hv _ => (hv.of_error rfl).mono fun _ => False.elim
  | ok u s' =>
    intro hv hok
    have hs := hok s' rfl
    dsimp only
    split
    · exact .terminate_fail hv.frame _ _
    · next message hd =>
      rw [hs] at hd ⊢
      exact .ofExcept rfl (CommandMessage.parse_failsWith codes _) (fun e he => ⟨_, hd, he⟩) _

end SecureChannel

section

variable (aes : Aes128) {CommandCode : Type} [DecidableEq CommandCode] (codes : Codes CommandCode)

theorem SecureChannel.Contained.discard {α : Type} {s : SecureChannel}
    {leavesOpen : SessionError → Prop} {o : Outcome α} (h : s.Contained leavesOpen o) :
    s.Contained leavesOpen o.discard :=
  ⟨by simpa using h.frame, fun e s' h' => h.failsClosed e s' (by cases o <;> cases h'; rfl)⟩

theorem HostCall.call_contained (s : SecureChannel) (c : HostCall CommandCode) :
    s.Contained ((Operation.host c).OpenError aes codes s) (c.call aes codes s) := by
  cases c with
  | authenticateSession => exact (s.authenticateSession_contained aes codes).discard
  | finishAuthenticateSession r => exact s.finishAuthenticateSession_contained r
  | commandWithMac c d => exact (s.commandWithMac_contained aes codes c d).discard
  | encryptCommand command => exact (s.encryptCommand_contained aes codes command).discard
  | verifyResponseMac r => exact s.verifyResponseMac_contained aes codes r
  | decryptResponse r => exact (s.decryptResponse_contained aes codes r).discard

theorem Operation.call_contained (s : SecureChannel) (op : Operation CommandCode) :
    s.Contained (op.OpenError aes codes s) (op.call aes codes s) := by
  cases op with
  | host c => exact c.call_contained aes codes s
  | verifyAuthenticateSession command =>
    exact (s.verifyAuthenticateSession_contained aes codes command).discard
  | decryptCommand command => exact (s.decryptCommand_contained aes codes command).discard
  | verifyCommandMac command => exact s.verifyCommandMac_contained aes codes command
  | encryptResponse response => exact (s.encryptResponse_contained aes codes response).discard
  | responseWithMac code data => exact (s.responseWithMac_contained aes codes code data).discard

end

/-! ## The life cycle as an abstract machine -/

/-- The spec's life cycle of a channel, `None → Authenticated → Terminated` or
`None → Terminated`, as steps between security levels; a step may also stay. -/
inductive LifeCycleStep : SecurityLevel → SecurityLevel → Prop
  | stay (l : SecurityLevel) : LifeCycleStep l l
  | authenticate : LifeCycleStep .None .Authenticated
  | terminate (l : SecurityLevel) : LifeCycleStep l .Terminated

theorem LifeCycleStep.trans {l l' l'' : SecurityLevel} (h : LifeCycleStep l l')
    (h' : LifeCycleStep l' l'') : LifeCycleStep l l'' := by
  cases h' with
  | stay => exact h
  | authenticate => cases h; exact .authenticate
  | terminate => exact .terminate _

/-- A step out of `Terminated` stays there. -/
theorem LifeCycleStep.eq_terminated {l : SecurityLevel} (h : LifeCycleStep .Terminated l) :
    l = .Terminated := by
  cases h <;> rfl

namespace SecureChannel

/-- An outcome from `s` that keeps the security level of `s`, or terminates the channel. -/
def LevelKept {α : Type} (s : SecureChannel) (o : Outcome α) : Prop :=
  (Outcome.state o).securityLevel = s.securityLevel ∨
    (Outcome.state o).securityLevel = .Terminated

theorem LevelKept.lifeCycleStep {α : Type} {s : SecureChannel} {o : Outcome α}
    (h : LevelKept s o) : LifeCycleStep s.securityLevel (Outcome.state o).securityLevel := by
  rcases h with h | h <;> rw [h]
  · exact .stay _
  · exact .terminate _

theorem LevelKept.of_state {α : Type} {s : SecureChannel} {o : Outcome α}
    (h : (Outcome.state o).securityLevel = s.securityLevel) : LevelKept s o :=
  .inl h

/-- `self.terminate(); fail!(..)`, on any channel. -/
theorem LevelKept.terminate_fail {α : Type} (s s' : SecureChannel) (kind : SessionErrorKind)
    (msg : String) : LevelKept s (s'.terminate.fail kind msg : Outcome α) :=
  .inr rfl

theorem LevelKept.of_error {α β : Type} {s s' : SecureChannel} {o : Outcome α}
    (h : LevelKept s o) {e : Fault} (he : o = .error e s') :
    LevelKept s (.error e s' : Outcome β) := by
  subst he; exact h

theorem LevelKept.discard {α : Type} {s : SecureChannel} {o : Outcome α} (h : LevelKept s o) :
    LevelKept s o.discard := by
  simpa only [LevelKept, Outcome.state_discard] using h

theorem LevelKept.incrementCounter (s : SecureChannel) : LevelKept s s.incrementCounter :=
  .of_state (by rw [incrementCounter_eq]; split_ifs <;> rfl)

variable (aes : Aes128) {CommandCode : Type} (codes : Codes CommandCode)

theorem commandWithMac_levelKept (s : SecureChannel) (c : CommandCode) (d : List UInt8) :
    LevelKept s (s.commandWithMac aes codes c d) := by
  unfold commandWithMac
  split_ifs
  · exact .terminate_fail _ _ _ _
  · exact .of_state (Outcome.state_ofExcept _ _ ▸ rfl)

theorem verifyResponseMac_levelKept (s : SecureChannel) (r : ResponseMessage CommandCode) :
    LevelKept s (s.verifyResponseMac aes codes r) := by
  unfold verifyResponseMac
  split_ifs
  · exact .of_state rfl
  split
  · exact .terminate_fail _ _ _ _
  split_ifs
  · exact .terminate_fail _ _ _ _
  split
  · exact .of_state rfl
  split_ifs
  · exact .terminate_fail _ _ _ _
  · exact .incrementCounter s

variable [DecidableEq CommandCode] in
theorem decryptResponse_levelKept (s : SecureChannel) (r : ResponseMessage CommandCode) :
    LevelKept s (s.decryptResponse aes codes r) := by
  unfold decryptResponse
  split_ifs
  · exact .of_state rfl
  have hv := verifyResponseMac_levelKept aes codes s r
  revert hv
  cases s.verifyResponseMac aes codes r with
  | error e s' => exact fun hv => hv.of_error rfl
  | ok u s' =>
    intro hv
    dsimp only
    split
    · exact .terminate_fail _ _ _ _
    · rw [LevelKept, Outcome.state_ofExcept]
      exact hv

theorem verifyCommandMac_levelKept (s : SecureChannel) (command : CommandMessage CommandCode) :
    LevelKept s (s.verifyCommandMac aes codes command) := by
  unfold verifyCommandMac
  split
  · exact .of_state rfl
  split_ifs
  · exact .of_state rfl
  split
  · exact .of_state rfl
  dsimp only
  split_ifs
  · exact .terminate_fail _ _ _ _
  · exact .of_state rfl

variable [DecidableEq CommandCode] in
theorem decryptCommand_levelKept (s : SecureChannel) (command : CommandMessage CommandCode) :
    LevelKept s (s.decryptCommand aes codes command) := by
  unfold decryptCommand
  split_ifs
  · exact .of_state rfl
  have hv := verifyCommandMac_levelKept aes codes s command
  revert hv
  cases s.verifyCommandMac aes codes command with
  | error e s' => exact fun hv => hv.of_error rfl
  | ok u s' =>
    intro hv
    dsimp only
    split
    · exact .terminate_fail _ _ _ _
    · rw [LevelKept, Outcome.state_ofExcept]
      exact hv

theorem responseWithMac_levelKept (s : SecureChannel) (code : ResponseCode CommandCode)
    (body : List UInt8) : LevelKept s (s.responseWithMac aes codes code body) := by
  unfold responseWithMac
  split_ifs
  · exact .of_state rfl
  · have hv := LevelKept.incrementCounter s
    revert hv
    cases s.incrementCounter with
    | ok _ s' => exact fun hv => hv
    | error e s' => exact fun hv => hv.of_error rfl

/-- `verify_authenticate_session` moves along the life cycle: it authenticates a channel that
had no security level, or keeps the level, or terminates. -/
theorem verifyAuthenticateSession_lifeCycleStep (s : SecureChannel)
    (command : CommandMessage CommandCode) :
    LifeCycleStep s.securityLevel
      (Outcome.state (s.verifyAuthenticateSession aes codes command)).securityLevel := by
  unfold verifyAuthenticateSession
  split
  · exact .stay _
  rename_i hl
  split
  · exact .stay _
  split
  · dsimp only
    split
    · exact .terminate _
    · have hv := verifyCommandMac_levelKept aes codes s command
      revert hv
      cases s.verifyCommandMac aes codes command with
      | error e s' => exact fun hv => hv.lifeCycleStep
      | ok u s' =>
        intro _
        rw [not_not.mp hl]
        exact .authenticate
  · exact .terminate _

end SecureChannel

section

variable (aes : Aes128) {CommandCode : Type} [DecidableEq CommandCode] (codes : Codes CommandCode)

theorem HostCall.call_levelKept (s : SecureChannel) (c : HostCall CommandCode)
    (hc : ∀ response, c ≠ .finishAuthenticateSession response) :
    s.LevelKept (c.call aes codes s) := by
  cases c with
  | authenticateSession =>
    rcases s.authenticateSession_cases aes codes with ⟨msg, h⟩ | h <;>
      simp only [HostCall.call, h]
    · exact .of_state rfl
    · exact (s.commandWithMac_levelKept aes codes _ _).discard
  | finishAuthenticateSession r => exact absurd rfl (hc r)
  | commandWithMac c d => exact (s.commandWithMac_levelKept aes codes c d).discard
  | encryptCommand command =>
    rcases s.encryptCommand_cases aes codes command with ⟨msg, h⟩ | h <;>
      simp only [HostCall.call, h]
    · exact .of_state rfl
    · exact (s.commandWithMac_levelKept aes codes _ _).discard
  | verifyResponseMac r => exact s.verifyResponseMac_levelKept aes codes r
  | decryptResponse r => exact (s.decryptResponse_levelKept aes codes r).discard

/-- **The code refines the spec's life cycle, but for one operation.** Every operation, on
every channel, moves the security level along `None → Authenticated → Terminated`, except
`finish_authenticate_session` on a terminated channel. -/
theorem Operation.call_lifeCycleStep (s : SecureChannel) (op : Operation CommandCode) :
    LifeCycleStep s.securityLevel (Outcome.state (op.call aes codes s)).securityLevel ∨
      (∃ response, op = .host (.finishAuthenticateSession response)) ∧
        s.securityLevel = .Terminated := by
  cases op with
  | host c =>
    by_cases hc : ∀ response, c ≠ .finishAuthenticateSession response
    · exact .inl (HostCall.call_levelKept aes codes s c hc).lifeCycleStep
    obtain ⟨r, rfl⟩ : ∃ r, c = .finishAuthenticateSession r := by simpa using hc
    show LifeCycleStep _ (Outcome.state (s.finishAuthenticateSession r)).securityLevel ∨ _
    unfold SecureChannel.finishAuthenticateSession
    split_ifs
    · exact .inl (.terminate _)
    · cases hl : s.securityLevel
      · exact .inl .authenticate
      · exact .inl (.stay _)
      · exact .inr ⟨⟨r, rfl⟩, rfl⟩
  | verifyAuthenticateSession command =>
    exact .inl (by simpa only [Operation.call, Outcome.state_discard] using
      s.verifyAuthenticateSession_lifeCycleStep aes codes command)
  | decryptCommand command =>
    exact .inl (s.decryptCommand_levelKept aes codes command).discard.lifeCycleStep
  | verifyCommandMac command =>
    exact .inl (s.verifyCommandMac_levelKept aes codes command).lifeCycleStep
  | encryptResponse response =>
    unfold Operation.call SecureChannel.encryptResponse
    split_ifs
    · exact .inl (.stay _)
    · exact .inl (s.responseWithMac_levelKept aes codes _ _).discard.lifeCycleStep
  | responseWithMac code data =>
    exact .inl (s.responseWithMac_levelKept aes codes code data).discard.lifeCycleStep

/-- The channels a run of operations passes through, the first one included. A panic ends the
run. -/
def Operation.states (s : SecureChannel) : List (Operation CommandCode) → List SecureChannel
  | [] => [s]
  | op :: ops =>
    s :: if Outcome.panicked (op.call aes codes s) then []
      else Operation.states (Outcome.state (op.call aes codes s)) ops

/-- Is the operation `finish_authenticate_session`? -/
def Operation.isFinishAuthenticateSession : Operation CommandCode → Bool
  | .host (.finishAuthenticateSession _) => true
  | _ => false

/-- Runs in which `finish_authenticate_session` is never called on a terminated channel. -/
def NoRevival (s : SecureChannel) : List (Operation CommandCode) → Bool
  | [] => true
  | op :: ops =>
    !(op.isFinishAuthenticateSession && s.securityLevel == .Terminated) &&
      (Outcome.panicked (op.call aes codes s) ||
        NoRevival (Outcome.state (op.call aes codes s)) ops)

theorem Operation.states_head? (s : SecureChannel) (ops : List (Operation CommandCode)) :
    (Operation.states aes codes s ops).head? = some s := by
  cases ops <;> rfl

/-- **Runs follow the life cycle.** In every run of operations, host and card, in which
`finish_authenticate_session` is never called on a terminated channel, each channel the run
passes through is one step of the spec's life cycle `None → Authenticated → Terminated` from
the one before, and so is reached from the first by the life cycle. -/
theorem lifeCycle_run (s : SecureChannel) (ops : List (Operation CommandCode))
    (h : NoRevival aes codes s ops = true) :
    (Operation.states aes codes s ops).Chain'
        (fun a b => LifeCycleStep a.securityLevel b.securityLevel) ∧
      ∀ s' ∈ Operation.states aes codes s ops,
        LifeCycleStep s.securityLevel s'.securityLevel := by
  induction ops generalizing s with
  | nil => simp [Operation.states, LifeCycleStep.stay]
  | cons op ops ih =>
    simp only [NoRevival, Bool.and_eq_true, Bool.not_eq_true', Bool.or_eq_true] at h
    obtain ⟨hr, h⟩ := h
    have hstep : LifeCycleStep s.securityLevel
        (Outcome.state (op.call aes codes s)).securityLevel := by
      refine (op.call_lifeCycleStep aes codes s).resolve_right fun ⟨⟨r, hop⟩, hl⟩ => ?_
      subst hop
      simp [Operation.isFinishAuthenticateSession, hl] at hr
    simp only [Operation.states]
    split_ifs with hp
    · simp [LifeCycleStep.stay]
    · obtain ⟨hchain, hfrom⟩ := ih _ (h.resolve_left hp)
      refine ⟨List.chain'_cons'.mpr ⟨fun s' hs' => ?_, hchain⟩, fun s' hs' => ?_⟩
      · rw [Operation.states_head?, Option.mem_some_iff] at hs'
        exact hs' ▸ hstep
      · rcases List.mem_cons.mp hs' with rfl | hs'
        · exact .stay _
        · exact hstep.trans (hfrom s' hs')

/-- The handshake of the sample channel, a command, and a rejected response that terminates
the channel. -/
theorem lifeCycle_run_sample :
    NoRevival Aes128.sample Codes.sample SecureChannel.sample
        [.host .authenticateSession,
          .host (.finishAuthenticateSession ⟨.Success .AuthSession, none, [], none⟩),
          .host (.commandWithMac .Echo [1]),
          .host (.finishAuthenticateSession ⟨.Success .AuthSession, none, [0], none⟩)] = true ∧
      (Operation.states Aes128.sample Codes.sample SecureChannel.sample
          [.host .authenticateSession,
            .host (.finishAuthenticateSession ⟨.Success .AuthSession, none, [], none⟩),
            .host (.commandWithMac .Echo [1]),
            .host (.finishAuthenticateSession ⟨.Success .AuthSession, none, [0], none⟩)]).Chain'
          (fun a b => LifeCycleStep a.securityLevel b.securityLevel) ∧
        ∀ s' ∈ Operation.states Aes128.sample Codes.sample SecureChannel.sample
            [.host .authenticateSession,
              .host (.finishAuthenticateSession ⟨.Success .AuthSession, none, [], none⟩),
              .host (.commandWithMac .Echo [1]),
              .host (.finishAuthenticateSession ⟨.Success .AuthSession, none, [0], none⟩)],
          LifeCycleStep SecureChannel.sample.securityLevel s'.securityLevel :=
  ⟨by decide, lifeCycle_run Aes128.sample Codes.sample _ _ (by decide)⟩

end

/-! ## Errors, keys and termination over every operation -/

section

variable (aes : Aes128) {CommandCode : Type} [DecidableEq CommandCode] (codes : Codes CommandCode)

/-- **Every `Err` terminates the channel, or leaves it as it was.** Whatever operation returns
`Err`, the channel is terminated with zeroized keys, or the error is one of the operation's
open errors, a `ProtocolError` of `new_with_mac` (in `authenticate_session`,
`command_with_mac` and `encrypt_command`) or of the parser of a decrypted payload (in
`decrypt_response` and `decrypt_command`), and the channel keeps its security level and
keys. -/
theorem err_terminates_or_keeps_level {s s' : SecureChannel} {op : Operation CommandCode}
    {e : SessionError} (h : op.call aes codes s = .error (.err e) s') :
    (s'.securityLevel = .Terminated ∧ s'.KeysZeroized) ∨
      (op.OpenError aes codes s e ∧ e.kind = .ProtocolError ∧
        s'.securityLevel = s.securityLevel ∧
        s'.encKey = s.encKey ∧ s'.macKey = s.macKey ∧ s'.rmacKey = s.rmacKey) :=
  (op.call_contained aes codes s).failsClosed e s' h

/-- `finish_authenticate_session` of a response with data terminates the sample channel. -/
theorem err_terminates_or_keeps_level_finishAuth :
    Operation.call Aes128.sample Codes.sample SecureChannel.sample
        (.host (.finishAuthenticateSession ⟨.Success .AuthSession, none, [0], none⟩)) =
        .error (.err (err .ProtocolError "expected empty response data (got 1-bytes)"))
          SecureChannel.sample.terminate ∧
      ((SecureChannel.sample.terminate.securityLevel = .Terminated ∧
          SecureChannel.sample.terminate.KeysZeroized) ∨
        (Operation.OpenError Aes128.sample Codes.sample SecureChannel.sample
            (.host (.finishAuthenticateSession ⟨.Success .AuthSession, none, [0], none⟩))
            (err .ProtocolError "expected empty response data (got 1-bytes)") ∧
          (err .ProtocolError "expected empty response data (got 1-bytes)").kind = .ProtocolError ∧
          SecureChannel.sample.terminate.securityLevel = SecureChannel.sample.securityLevel ∧
          SecureChannel.sample.terminate.encKey = SecureChannel.sample.encKey ∧
          SecureChannel.sample.terminate.macKey = SecureChannel.sample.macKey ∧
          SecureChannel.sample.terminate.rmacKey = SecureChannel.sample.rmacKey)) :=
  have h : Operation.call Aes128.sample Codes.sample SecureChannel.sample
      (.host (.finishAuthenticateSession ⟨.Success .AuthSession, none, [0], none⟩)) =
      .error (.err (err .ProtocolError "expected empty response data (got 1-bytes)"))
        SecureChannel.sample.terminate := rfl
  ⟨h, err_terminates_or_keeps_level Aes128.sample Codes.sample h⟩

/-- Every channel a run passes through is in the frame of the first. -/
theorem Operation.frame_of_mem_states (s : SecureChannel) (ops : List (Operation CommandCode)) :
    ∀ s' ∈ Operation.states aes codes s ops, SecureChannel.Frame s s' := by
  induction ops generalizing s with
  | nil => simpa [Operation.states] using SecureChannel.Frame.refl s
  | cons op ops ih =>
    intro s' hs'
    rcases List.mem_cons.mp hs' with rfl | hs'
    · exact .refl _
    · split_ifs at hs'
      · cases hs'
      · exact (op.call_contained aes codes s).frame.trans (ih _ s' hs')

/-- **Keys over whole runs.** Along every run of operations from `SecureChannel::new`, the
channel keeps its session ID and the context built from the two challenges, and its three
keys are the session keys derived from the auth key and that context, or all zero: no
operation writes anything else into them. -/
theorem reachable_keys (id : SessionId) (authKey : AuthKey)
    (hostChallenge cardChallenge : Challenge) (ops : List (Operation CommandCode)) :
    ∀ s ∈ Operation.states aes codes
        (SecureChannel.new aes id authKey hostChallenge cardChallenge) ops,
      s.id = id ∧ s.context = Context.fromChallenges hostChallenge cardChallenge ∧
      (s.KeysZeroized ∨
        s.encKey = deriveKey aes authKey.encKey 0b100 s.context ∧
        s.macKey = deriveKey aes authKey.macKey 0b110 s.context ∧
        s.rmacKey = deriveKey aes authKey.macKey 0b111 s.context) := by
  intro s hs
  obtain ⟨hid, hctx, hk⟩ := Operation.frame_of_mem_states aes codes _ ops s hs
  refine ⟨hid, hctx, ?_⟩
  rw [hctx]
  exact hk.symm

/-- The sample channel, terminated by a nonempty answer to the authentication, keeps its session
ID and context, and its keys are zero. -/
theorem reachable_keys_sample_terminate :
    SecureChannel.sample.terminate ∈ Operation.states Aes128.sample Codes.sample
        (SecureChannel.new Aes128.sample ⟨0, by decide⟩ AuthKey.sample (Bytes.zero 8)
          (Bytes.zero 8))
        [.host (.finishAuthenticateSession ⟨.Success .AuthSession, none, [0], none⟩)] ∧
      SecureChannel.sample.terminate.id = ⟨0, by decide⟩ ∧
      SecureChannel.sample.terminate.context =
        Context.fromChallenges (Bytes.zero 8) (Bytes.zero 8) ∧
      (SecureChannel.sample.terminate.KeysZeroized ∨
        SecureChannel.sample.terminate.encKey =
            deriveKey Aes128.sample AuthKey.sample.encKey 0b100
              SecureChannel.sample.terminate.context ∧
        SecureChannel.sample.terminate.macKey =
            deriveKey Aes128.sample AuthKey.sample.macKey 0b110
              SecureChannel.sample.terminate.context ∧
        SecureChannel.sample.terminate.rmacKey =
            deriveKey Aes128.sample AuthKey.sample.macKey 0b111
              SecureChannel.sample.terminate.context) :=
  have h : SecureChannel.sample.terminate ∈ Operation.states Aes128.sample Codes.sample
      (SecureChannel.new Aes128.sample ⟨0, by decide⟩ AuthKey.sample (Bytes.zero 8)
        (Bytes.zero 8))
      [.host (.finishAuthenticateSession ⟨.Success .AuthSession, none, [0], none⟩)] :=
    List.mem_cons_of_mem _ (List.mem_singleton_self _)
  ⟨h, reachable_keys Aes128.sample Codes.sample _ _ _ _ _ _ h⟩

/-- On a terminated channel, every operation but `finish_authenticate_session` leaves the
channel terminated: a life-cycle step out of `Terminated` stays there. -/
theorem Operation.call_securityLevel_of_terminated {s : SecureChannel}
    (hl : s.securityLevel = .Terminated) (op : Operation CommandCode)
    (hop : ∀ response, op ≠ .host (.finishAuthenticateSession response)) :
    (Outcome.state (op.call aes codes s)).securityLevel = .Terminated := by
  rcases op.call_lifeCycleStep aes codes s with h | ⟨⟨r, h⟩, -⟩
  · rw [hl] at h
    exact h.eq_terminated
  · exact absurd h (hop r)

/-- **Terminated is absorbing, but for `finish_authenticate_session`.** On a terminated
channel with zeroized keys, every other operation, whatever it returns, leaves the channel
terminated with zeroized keys. -/
theorem terminated_stays_terminated {s : SecureChannel} (hl : s.securityLevel = .Terminated)
    (hk : s.KeysZeroized) (op : Operation CommandCode)
    (hop : ∀ response, op ≠ .host (.finishAuthenticateSession response)) :
    (Outcome.state (op.call aes codes s)).securityLevel = .Terminated ∧
      (Outcome.state (op.call aes codes s)).KeysZeroized :=
  ⟨op.call_securityLevel_of_terminated aes codes hl hop,
    (op.call_contained aes codes s).frame.keysZeroized hk⟩

/-- `command_with_mac` on the terminated sample channel leaves it terminated. -/
theorem terminated_stays_terminated_commandWithMac :
    SecureChannel.sample.terminate.securityLevel = .Terminated ∧
      SecureChannel.sample.terminate.KeysZeroized ∧
      (∀ response, (.host (.commandWithMac .Echo []) : Operation SampleCommand) ≠
        .host (.finishAuthenticateSession response)) ∧
      (Outcome.state (Operation.call Aes128.sample Codes.sample SecureChannel.sample.terminate
          (.host (.commandWithMac .Echo [])))).securityLevel = .Terminated ∧
      (Outcome.state (Operation.call Aes128.sample Codes.sample SecureChannel.sample.terminate
          (.host (.commandWithMac .Echo [])))).KeysZeroized :=
  have hl : SecureChannel.sample.terminate.securityLevel = .Terminated := rfl
  have hk := SecureChannel.sample.terminate_keysZeroized
  have hop : ∀ response, (.host (.commandWithMac .Echo []) : Operation SampleCommand) ≠
      .host (.finishAuthenticateSession response) := fun _ h => by cases h
  ⟨hl, hk, hop, terminated_stays_terminated Aes128.sample Codes.sample hl hk _ hop⟩

end

/-! ## Errors that leave the channel open -/

/-- **An `Err` that leaves the channel open.** After the handshake, `encrypt_command` of a
command with 2045 bytes of data, which `CommandMessage::new` accepts, encrypts it to 2064 bytes;
`command_with_mac` overwrites the chaining value and then `new_with_mac` rejects the data. The
`Err` leaves the channel authenticated with its keys. -/
theorem encryptCommand_error_leaves_channel_open :
    CommandMessage.new SampleCommand.Echo (List.replicate 2045 0) =
        .ok ⟨.Echo, none, List.replicate 2045 0, none⟩ ∧
      ∃ s s' e, Reachable Aes128.sample Codes.sample s ∧
        s.encryptCommand Aes128.sample Codes.sample ⟨.Echo, none, List.replicate 2045 0, none⟩ =
          .error (.err e) s' ∧
        s'.securityLevel = .Authenticated ∧ ¬s'.KeysZeroized := by
  refine ⟨CommandMessage.new_of_length_le (by rw [List.length_replicate]; decide), _, ?s', ?e,
    reachable_sample_authenticated, ?error, ?level, ?keys⟩
  case error =>
    rw [SecureChannel.encryptCommand_of_authenticated _ _ rfl]
    refine SecureChannel.commandWithMac_too_long Aes128.sample Codes.sample ?_ ?_
    · decide
    rw [length_encryptPad, CommandMessage.length_into]
    simp only [CommandMessage.len, List.length_replicate, Option.isSome_none, Bool.false_eq_true,
      ↓reduceIte, maxMsgSize]
    decide
  case level => rfl
  case keys => decide

/-! ## A terminated channel is not inert -/

/-- **A terminated channel comes back.** The sample channel, terminated by a nonempty answer to
the authentication, still has `command_with_mac` return `Ok` with a command MACed under the
zeroized key, and `finish_authenticate_session` returns `Ok` and makes it authenticated
again. -/
theorem finishAuthenticateSession_revives_terminated :
    ∃ t t' : SecureChannel, Reachable Aes128.sample Codes.sample t ∧
      t.securityLevel = .Terminated ∧ t.KeysZeroized ∧
      Outcome.isOk (t.commandWithMac Aes128.sample Codes.sample .Echo []) = true ∧
      t.finishAuthenticateSession (⟨.Success .AuthSession, none, [], none⟩ :
          ResponseMessage SampleCommand) = .ok () t' ∧
      t'.securityLevel = .Authenticated :=
  ⟨_, _, reachable_sample_terminate, rfl, SecureChannel.terminate_keysZeroized _, by decide, rfl,
    rfl⟩

end YubiHsm
