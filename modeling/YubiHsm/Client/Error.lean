import YubiHsm.Session.SecureChannel.Lifecycle

/-!
# Errors as the client sees them

`Error<T>` of `error.rs` displays as its kind, then `": "` and its description, unless the
description is missing or is `NO_DESCRIPTION` (`Error.display`); its `description()` is the
description or `NO_DESCRIPTION` (`Error.descriptionText`). `client/error.rs` turns session and
connection errors into a `ClientError`: the kind is mapped, the four protocol kinds of the
secure channel all become `ClientErrorKind::ProtocolError`, and `description()` becomes the
description.

`channelErrors_reach_client_as_protocolError`: every `Err` that an operation of the secure
channel returns, on the host or the card, from any channel and on any input, has one of those
four kinds and a description, so it reaches the client as a `ProtocolError` with the channel's
own message; and the conversions change nothing in how an error displays but the kind.
-/

namespace YubiHsm

/-! ## `Error<T>` -/

/-- `NO_DESCRIPTION`. -/
def noDescription : String := "(no description)"

namespace Error

variable {Kind : Type}

/-- `StdError::description`. -/
def descriptionText (e : Error Kind) : String :=
  match e.description with
  | some s => s
  | none => noDescription

/-- `Display::fmt`, given the `Display` of the kind. -/
def display (kindDisplay : Kind → String) (e : Error Kind) : String :=
  match e.description with
  | none => kindDisplay e.kind
  | some desc =>
    if desc = noDescription then kindDisplay e.kind else kindDisplay e.kind ++ ": " ++ desc

/-- Replacing the description by `description()` displays the same: a missing description
becomes `NO_DESCRIPTION`, which `Display` hides. -/
theorem display_descriptionText {Kind' : Type} (kindDisplay : Kind → String) (kind : Kind)
    (e : Error Kind') :
    display kindDisplay ⟨kind, some e.descriptionText⟩ =
      display kindDisplay ⟨kind, e.description⟩ := by
  rcases e with ⟨_, _ | desc⟩
  · simp [display, descriptionText]
  · rfl

end Error

/-! ## Kinds -/

/-- `{:02x}`: two lowercase hexadecimal digits. -/
def hexByte (b : UInt8) : String :=
  let digits := Nat.toDigits 16 b.toNat
  String.mk (List.replicate (2 - digits.length) '0' ++ digits)

/-- The `Display` of `HsmErrorKind` (`#[fail(display = ..)]`). -/
def HsmErrorKind.display : HsmErrorKind → String
  | .Unknown code => "unknown HSM error code: 0x" ++ hexByte code
  | .CommandInvalid => "invalid command"
  | .DataInvalid => "invalid data"
  | .SessionInvalid => "invalid session"
  | .AuthFail => "authentication failed"
  | .SessionsFull => "sessions full (max 16)"
  | .SessionFailed => "session failed"
  | .StorageFailed => "storage failed"
  | .WrongLength => "incorrect length"
  | .PermissionInvalid => "invalid permissions"
  | .LogFull => "audit log full"
  | .ObjectNotFound => "object not found"
  | .IDIllegal => "ID illegal"
  | .InvalidOTP => "invalid OTP"
  | .DemoMode => "demo mode"
  | .CmdUnexecuted => "command unexecuted"
  | .GenericError => "generic error"
  | .ObjectExists => "object already exists"

/-- `ConnectionErrorKind` of `connector/error.rs`, with `UsbError` of the `usb` feature. -/
inductive ConnectionErrorKind where
  | AddrInvalid
  | AccessDenied
  | DeviceBusyError
  | ConnectionFailed
  | IoError
  | RequestError
  | ResponseError
  | UsbError
  deriving DecidableEq, Repr

/-- `ConnectionError`. -/
abbrev ConnectionError := Error ConnectionErrorKind

/-- `ClientErrorKind` of `client/error.rs`. -/
inductive ClientErrorKind where
  | AuthFail
  | ClosedSessionError
  | ConnectionError (kind : ConnectionErrorKind)
  | CreateFailed
  | DeviceError (kind : HsmErrorKind)
  | ProtocolError
  | ResponseError
  deriving DecidableEq, Repr

/-- `ClientError`. -/
abbrev ClientError := Error ClientErrorKind

namespace ClientErrorKind

/-- The `Display` of `ClientErrorKind` (`#[fail(display = ..)]`). -/
def display : ClientErrorKind → String
  | AuthFail => "authentication failed"
  | ClosedSessionError => "session closed"
  | ConnectionError _ => "connection error"
  | CreateFailed => "couldn't create session"
  | DeviceError kind => "HSM error: " ++ kind.display
  | ProtocolError => "protocol error"
  | ResponseError => "HSM error"

/-- The `match err.kind()` of `From<SessionError> for ClientError`. -/
def ofSessionErrorKind : SessionErrorKind → ClientErrorKind
  | .AuthFail => AuthFail
  | .ClosedSessionError => ClosedSessionError
  | .CreateFailed => CreateFailed
  | .DeviceError kind => DeviceError kind
  | .ProtocolError | .CommandLimitExceeded | .MismatchError | .VerifyFailed => ProtocolError
  | .ResponseError => ResponseError

end ClientErrorKind

namespace ClientError

/-- `From<SessionError> for ClientError`: `err!(kind, err.description())`. -/
def ofSessionError (e : SessionError) : ClientError :=
  ⟨ClientErrorKind.ofSessionErrorKind e.kind, some e.descriptionText⟩

/-- `From<ConnectionError> for ClientError`. -/
def ofConnectionError (e : ConnectionError) : ClientError :=
  ⟨.ConnectionError e.kind, some e.descriptionText⟩

end ClientError

/-! ## The errors of the secure channel -/

/-- An error of the secure channel: one of its four protocol kinds, with a description. -/
def ChannelError (e : SessionError) : Prop :=
  (e.kind = .ProtocolError ∨ e.kind = .CommandLimitExceeded ∨ e.kind = .MismatchError ∨
    e.kind = .VerifyFailed) ∧ e.description.isSome

/-- Every `Err` the outcome ends in is an error of the secure channel. -/
def ChannelFails {α : Type} (o : Outcome α) : Prop :=
  ∀ e s', o = .error (.err e) s' → ChannelError e

namespace ChannelFails

variable {α β : Type}

theorem ok (a : α) (s : SecureChannel) : ChannelFails (.ok a s : Outcome α) :=
  fun _ _ h => by cases h

theorem panic (s : SecureChannel) (msg : String) : ChannelFails (s.panic msg : Outcome α) :=
  fun _ _ h => by cases h

theorem fail (s : SecureChannel) {kind : SessionErrorKind}
    (hk : kind = .ProtocolError ∨ kind = .CommandLimitExceeded ∨ kind = .MismatchError ∨
      kind = .VerifyFailed) (msg : String) : ChannelFails (s.fail kind msg : Outcome α) :=
  fun _ _ h => by cases h; exact ⟨hk, rfl⟩

theorem discard {o : Outcome α} (h : ChannelFails o) : ChannelFails o.discard :=
  fun e s' h' => h e s' (by cases o <;> cases h'; rfl)

theorem of_error {o : Outcome α} (h : ChannelFails o) {e : Fault} {s' : SecureChannel}
    (he : o = .error e s') : ChannelFails (.error e s' : Outcome β) :=
  fun e' s'' h' => h e' s'' (by cases h'; exact he)

theorem incrementCounter (s : SecureChannel) : ChannelFails s.incrementCounter := by
  rw [SecureChannel.incrementCounter_eq]
  split_ifs
  · exact ok _ _
  · exact panic s _

/-- `?` on a computation that fails only with a `ProtocolError`. -/
theorem ofExcept (s : SecureChannel) {x : Except Fault α} (hx : FailsWith .ProtocolError x) :
    ChannelFails (Outcome.ofExcept s x) := fun e s' h => by
  cases x with
  | ok => cases h
  | error fl =>
    obtain ⟨msg, rfl⟩ := hx fl rfl
    cases h
    exact ⟨.inl rfl, rfl⟩

/-- `?` on a parse whose value is then adjusted. -/
theorem ofExcept_map (s : SecureChannel) {x : Except Fault β} (hx : FailsWith .ProtocolError x)
    (f : β → α) : ChannelFails (Outcome.ofExcept s (x.map f)) :=
  ofExcept s fun fl h => hx fl (by cases x <;> cases h; rfl)

end ChannelFails

namespace SecureChannel

variable (aes : Aes128) {CommandCode : Type} (codes : Codes CommandCode) (s : SecureChannel)

theorem commandWithMac_channelFails (c : CommandCode) (d : List UInt8) :
    ChannelFails (s.commandWithMac aes codes c d) := by
  unfold commandWithMac CommandMessage.newWithMac
  split_ifs
  · exact .fail _ (.inr (.inl rfl)) _
  · exact .ok _ _
  · exact .ofExcept _ fun _ h => by cases h; exact ⟨_, rfl⟩

theorem authenticateSession_channelFails : ChannelFails (s.authenticateSession aes codes) := by
  rcases s.authenticateSession_cases aes codes with ⟨msg, h⟩ | h <;> rw [h]
  · exact .panic s _
  · exact commandWithMac_channelFails aes codes s _ _

theorem finishAuthenticateSession_channelFails (r : ResponseMessage CommandCode) :
    ChannelFails (s.finishAuthenticateSession r) := by
  unfold finishAuthenticateSession
  split_ifs
  · exact .fail _ (.inl rfl) _
  · exact .ok _ _

theorem encryptCommand_channelFails (command : CommandMessage CommandCode) :
    ChannelFails (s.encryptCommand aes codes command) := by
  rcases s.encryptCommand_cases aes codes command with ⟨msg, h⟩ | h <;> rw [h]
  · exact .panic s _
  · exact commandWithMac_channelFails aes codes s _ _

theorem verifyResponseMac_channelFails (r : ResponseMessage CommandCode) :
    ChannelFails (s.verifyResponseMac aes codes r) := by
  unfold verifyResponseMac
  split_ifs
  · exact .panic s _
  split
  · exact .fail _ (.inl rfl) _
  split_ifs
  · exact .fail _ (.inr (.inr (.inl rfl))) _
  split
  · exact .panic s _
  split_ifs
  · exact .fail _ (.inr (.inr (.inr rfl))) _
  · exact .incrementCounter s

theorem verifyCommandMac_channelFails (command : CommandMessage CommandCode) :
    ChannelFails (s.verifyCommandMac aes codes command) := by
  unfold verifyCommandMac
  split
  · exact .panic s _
  split_ifs
  · exact .panic s _
  split
  · exact .panic s _
  dsimp only
  split_ifs
  · exact .fail _ (.inr (.inr (.inr rfl))) _
  · exact .ok _ _

theorem verifyAuthenticateSession_channelFails (command : CommandMessage CommandCode) :
    ChannelFails (s.verifyAuthenticateSession aes codes command) := by
  unfold verifyAuthenticateSession
  split
  · exact .panic s _
  split
  · exact .panic s _
  split
  · dsimp only
    split
    · exact .fail _ (.inr (.inr (.inr rfl))) _
    · have hv := verifyCommandMac_channelFails aes codes s command
      revert hv
      cases s.verifyCommandMac aes codes command with
      | ok _ s' => exact fun _ => .ok _ _
      | error e s' => exact fun hv => hv.of_error rfl
  · exact .fail _ (.inl rfl) _

/-- `response_with_mac` returns no `Err` at all: it only panics. -/
theorem responseWithMac_channelFails (code : ResponseCode CommandCode) (body : List UInt8) :
    ChannelFails (s.responseWithMac aes codes code body) := by
  unfold responseWithMac
  rw [incrementCounter_eq]
  split_ifs <;> exact fun _ _ h => by cases h

theorem encryptResponse_channelFails (response : ResponseMessage CommandCode) :
    ChannelFails (s.encryptResponse aes codes response) := by
  unfold encryptResponse
  split_ifs
  · exact .panic s _
  · exact responseWithMac_channelFails aes codes s _ _

variable [DecidableEq CommandCode]

theorem decryptResponse_channelFails (r : ResponseMessage CommandCode) :
    ChannelFails (s.decryptResponse aes codes r) := by
  unfold decryptResponse
  split_ifs
  · exact .panic s _
  have hv := verifyResponseMac_channelFails aes codes s r
  revert hv
  cases s.verifyResponseMac aes codes r with
  | error e s' => exact fun hv => hv.of_error rfl
  | ok _ s' =>
    intro _
    dsimp only
    split
    · exact .fail _ (.inl rfl) _
    · exact .ofExcept_map _ (ResponseMessage.parse_failsWith codes _) _

theorem decryptCommand_channelFails (command : CommandMessage CommandCode) :
    ChannelFails (s.decryptCommand aes codes command) := by
  unfold decryptCommand
  split_ifs
  · exact .panic s _
  have hv := verifyCommandMac_channelFails aes codes s command
  revert hv
  cases s.verifyCommandMac aes codes command with
  | error e s' => exact fun hv => hv.of_error rfl
  | ok _ s' =>
    intro _
    dsimp only
    split
    · exact .fail _ (.inl rfl) _
    · exact .ofExcept_map _ (CommandMessage.parse_failsWith codes _) _

end SecureChannel

theorem HostCall.call_channelFails (aes : Aes128) {CommandCode : Type} [DecidableEq CommandCode]
    (codes : Codes CommandCode) (s : SecureChannel) (c : HostCall CommandCode) :
    ChannelFails (c.call aes codes s) := by
  cases c with
  | authenticateSession => exact (s.authenticateSession_channelFails aes codes).discard
  | finishAuthenticateSession r => exact s.finishAuthenticateSession_channelFails r
  | commandWithMac c d => exact (s.commandWithMac_channelFails aes codes c d).discard
  | encryptCommand command => exact (s.encryptCommand_channelFails aes codes command).discard
  | verifyResponseMac r => exact s.verifyResponseMac_channelFails aes codes r
  | decryptResponse r => exact (s.decryptResponse_channelFails aes codes r).discard

theorem Operation.call_channelFails (aes : Aes128) {CommandCode : Type} [DecidableEq CommandCode]
    (codes : Codes CommandCode) (s : SecureChannel) (op : Operation CommandCode) :
    ChannelFails (op.call aes codes s) := by
  cases op with
  | host c => exact c.call_channelFails aes codes s
  | verifyAuthenticateSession command =>
    exact (s.verifyAuthenticateSession_channelFails aes codes command).discard
  | decryptCommand command => exact (s.decryptCommand_channelFails aes codes command).discard
  | verifyCommandMac command => exact s.verifyCommandMac_channelFails aes codes command
  | encryptResponse response => exact (s.encryptResponse_channelFails aes codes response).discard
  | responseWithMac code data => exact (s.responseWithMac_channelFails aes codes code data).discard

/-! ## What reaches the client -/

/-- **Channel errors reach the client as protocol errors.** Every `Err` that an operation of
the secure channel returns, host or card, from any channel and on any input, becomes through
`From<SessionError>` a `ClientErrorKind::ProtocolError` with the channel's description. The
conversions from session and connection errors display as the error did, up to the kind's text:
the `NO_DESCRIPTION` they write for a missing description is not displayed. -/
theorem channelErrors_reach_client_as_protocolError (aes : Aes128) {CommandCode : Type}
    [DecidableEq CommandCode] (codes : Codes CommandCode) :
    (∀ (op : Operation CommandCode) (s s' : SecureChannel) (e : SessionError),
      op.call aes codes s = .error (.err e) s' →
        e.description.isSome ∧ ClientError.ofSessionError e = ⟨.ProtocolError, e.description⟩) ∧
    (∀ e : SessionError, (ClientError.ofSessionError e).display ClientErrorKind.display =
      Error.display ClientErrorKind.display
        ⟨ClientErrorKind.ofSessionErrorKind e.kind, e.description⟩) ∧
    ∀ e : ConnectionError, (ClientError.ofConnectionError e).display ClientErrorKind.display =
      Error.display ClientErrorKind.display ⟨.ConnectionError e.kind, e.description⟩ := by
  refine ⟨fun op s s' e h => ?_, fun e => Error.display_descriptionText _ _ e,
    fun e => Error.display_descriptionText _ _ e⟩
  obtain ⟨hk, hd⟩ := op.call_channelFails aes codes s e s' h
  rcases e with ⟨kind, _ | desc⟩
  · cases hd
  · refine ⟨rfl, ?_⟩
    rcases hk with rfl | rfl | rfl | rfl <;> rfl

example : (ClientError.ofSessionError (err .VerifyFailed "R-MAC mismatch!")).display
    ClientErrorKind.display = "protocol error: R-MAC mismatch!" := by decide

end YubiHsm
