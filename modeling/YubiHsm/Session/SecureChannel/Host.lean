import YubiHsm.Session.Codec
import YubiHsm.Session.SecureChannel.State

/-!
# The host side of the channel

The methods of `SecureChannel` that the host calls: `command_with_mac`, the handshake
(`authenticate_session`, `finish_authenticate_session`), `encrypt_command`,
`verify_response_mac` and `decrypt_response`, each with its assertions, its errors and the
order in which it changes the channel. After the definitions come one lemma per method that
says everything a call can end in (`commandWithMac_ok`, `verifyResponseMac_cases`, ...);
the proofs about whole runs use those and never unfold a method.
-/

namespace YubiHsm

namespace SecureChannel

variable (aes : Aes128) {CommandCode : Type} (codes : Codes CommandCode)

/-- The CMAC of `command_with_mac` under S-MAC: chaining value, command code, the length of
the message after the length field, session ID and data. -/
def commandMac (self : SecureChannel) (commandType : CommandCode) (commandData : List UInt8) :
    Block :=
  aes.cmac self.macKey (self.macChainingValue.toList ++ [codes.command.toU8 commandType] ++
    writeU16 (1 + commandData.length + macSize) ++ [self.id.toU8] ++ commandData)

/-- `command_with_mac`: compute a command message with a MAC value for this session. -/
def commandWithMac (self : SecureChannel) (commandType : CommandCode)
    (commandData : List UInt8) : Outcome (CommandMessage CommandCode) :=
  if self.counter ≥ maxCommandsPerSession then
    self.terminate.fail .CommandLimitExceeded ("max of " ++ toString maxCommandsPerSession.toNat ++
      " command per session exceeded")
  else
    let tag := self.commandMac aes codes commandType commandData
    let self := { self with macChainingValue := tag }
    Outcome.ofExcept self
      (liftErr (CommandMessage.newWithMac commandType self.id commandData (Mac.ofTag tag)))

/-- `authenticate_session`: the message that authenticates the host to the card. -/
def authenticateSession (self : SecureChannel) : Outcome (CommandMessage CommandCode) :=
  if self.securityLevel ≠ .None then
    self.panic "assertion failed: security_level == SecurityLevel::None"
  else if self.macChainingValue ≠ Bytes.zero 16 then
    self.panic "assertion failed: mac_chaining_value == [0u8; MAC_SIZE * 2]"
  else self.commandWithMac aes codes codes.AuthSession (self.hostCryptogram aes).toList

/-- `finish_authenticate_session`: handle the card's answer to the authentication. -/
def finishAuthenticateSession (self : SecureChannel) (response : ResponseMessage CommandCode) :
    Outcome Unit :=
  if !response.data.isEmpty then
    self.terminate.fail .ProtocolError ("expected empty response data (got " ++
      toString response.data.length ++ "-bytes)")
  else .ok () { self with securityLevel := .Authenticated, counter := 1 }

/-- `encrypt_command`: encrypt a command to be sent to the card. -/
def encryptCommand (self : SecureChannel) (command : CommandMessage CommandCode) :
    Outcome (CommandMessage CommandCode) :=
  if self.securityLevel ≠ .Authenticated then
    self.panic "assertion failed: security_level == SecurityLevel::Authenticated"
  else
    let message := command.into codes
    let icv := computeIcv aes self.encKey self.counter
    let ciphertext := encryptPad aes self.encKey icv message
    self.commandWithMac aes codes codes.SessionMessage ciphertext

/-- The CMAC of `verify_response_mac` under S-RMAC: chaining value, response code, the
response's length, session ID and data. -/
def responseMac (self : SecureChannel) (response : ResponseMessage CommandCode)
    (sessionId : SessionId) : Block :=
  aes.cmac self.rmacKey (self.macChainingValue.toList ++ [codes.response.toU8 response.code] ++
    writeU16 response.len ++ [sessionId.toU8] ++ response.data)

/-- `verify_response_mac`: check the R-MAC of a response from the card. -/
def verifyResponseMac (self : SecureChannel) (response : ResponseMessage CommandCode) :
    Outcome Unit :=
  if self.securityLevel ≠ .Authenticated then
    self.panic "assertion failed: security_level == SecurityLevel::Authenticated"
  else
    match response.sessionId with
    | none => self.terminate.fail .ProtocolError "no session ID in response"
    | some sessionId =>
      if self.id ≠ sessionId then
        self.terminate.fail .MismatchError ("message has session ID " ++
          toString sessionId.toU8.toNat ++ " (expected " ++ toString self.id.toU8.toNat ++ ")")
      else
        match response.mac with
        | none => self.panic "missing R-MAC tag!"
        | some mac =>
          if !mac.verify (self.responseMac aes codes response sessionId) then
            self.terminate.fail .VerifyFailed "R-MAC mismatch!"
          else self.incrementCounter

variable [DecidableEq CommandCode] in
/-- `decrypt_response`: verify and decrypt a response from the card. -/
def decryptResponse (self : SecureChannel) (encryptedResponse : ResponseMessage CommandCode) :
    Outcome (ResponseMessage CommandCode) :=
  if self.securityLevel ≠ .Authenticated then
    self.panic "assertion failed: security_level == SecurityLevel::Authenticated"
  else
    let icv := computeIcv aes self.encKey self.counter
    match self.verifyResponseMac aes codes encryptedResponse with
    | .error e self => .error e self
    | .ok () self =>
      match decryptPad aes self.encKey icv encryptedResponse.data with
      | none => self.terminate.fail .ProtocolError "error decrypting response: BlockModeError"
      | some responseMessage =>
        Outcome.ofExcept self ((ResponseMessage.parse codes responseMessage).map
          fun decryptedResponse =>
            { decryptedResponse with sessionId := encryptedResponse.sessionId })

/-! ## What each host method can end in -/

theorem commandWithMac_of_ge {self : SecureChannel} (h : maxCommandsPerSession ≤ self.counter)
    (commandType : CommandCode) (commandData : List UInt8) :
    self.commandWithMac aes codes commandType commandData =
      self.terminate.fail .CommandLimitExceeded ("max of " ++
        toString maxCommandsPerSession.toNat ++ " command per session exceeded") :=
  if_pos h

theorem commandWithMac_of_lt {self : SecureChannel} (h : self.counter < maxCommandsPerSession)
    (commandType : CommandCode) (commandData : List UInt8) :
    self.commandWithMac aes codes commandType commandData =
      Outcome.ofExcept
        { self with macChainingValue := self.commandMac aes codes commandType commandData }
        (liftErr (CommandMessage.newWithMac commandType self.id commandData
          (Mac.ofTag (self.commandMac aes codes commandType commandData)))) :=
  if_neg (by rw [ge_iff_le, UInt32.le_iff_toNat_le]; rw [UInt32.lt_iff_toNat_lt] at h; omega)

/-- Under the counter limit and with data that fits, `command_with_mac` returns the command
with its MAC and chains the full tag. -/
theorem commandWithMac_ok {self : SecureChannel} (h : self.counter < maxCommandsPerSession)
    {commandType : CommandCode} {commandData : List UInt8}
    (hd : commandData.length ≤ maxMsgSize) :
    self.commandWithMac aes codes commandType commandData =
      .ok ⟨commandType, some self.id, commandData,
          some (Mac.ofTag (self.commandMac aes codes commandType commandData))⟩
        { self with macChainingValue := self.commandMac aes codes commandType commandData } := by
  rw [commandWithMac_of_lt aes codes h]
  simp [CommandMessage.newWithMac, hd]

/-- Under the counter limit, data too long for `new_with_mac` makes `command_with_mac` fail
after it has chained the tag. -/
theorem commandWithMac_too_long {self : SecureChannel} (h : self.counter < maxCommandsPerSession)
    {commandType : CommandCode} {commandData : List UInt8} (hd : maxMsgSize < commandData.length) :
    self.commandWithMac aes codes commandType commandData =
      .error (.err (err .ProtocolError ("command data too long: " ++
          toString commandData.length ++ " bytes (max " ++ toString maxMsgSize ++ ")")))
        { self with macChainingValue := self.commandMac aes codes commandType commandData } := by
  rw [commandWithMac_of_lt aes codes h]
  simp [CommandMessage.newWithMac, Nat.not_le.mpr hd]

/-- Everything `command_with_mac` can end in. -/
theorem commandWithMac_cases (self : SecureChannel) (commandType : CommandCode)
    (commandData : List UInt8) :
    (maxCommandsPerSession ≤ self.counter ∧ ∃ e,
        self.commandWithMac aes codes commandType commandData = .error (.err e) self.terminate) ∨
    (self.counter < maxCommandsPerSession ∧ commandData.length ≤ maxMsgSize ∧
        self.commandWithMac aes codes commandType commandData =
          .ok ⟨commandType, some self.id, commandData,
              some (Mac.ofTag (self.commandMac aes codes commandType commandData))⟩
            { self with macChainingValue := self.commandMac aes codes commandType commandData }) ∨
    (self.counter < maxCommandsPerSession ∧ maxMsgSize < commandData.length ∧ ∃ e,
        self.commandWithMac aes codes commandType commandData = .error (.err e)
          { self with macChainingValue := self.commandMac aes codes commandType commandData }) := by
  by_cases hc : self.counter < maxCommandsPerSession
  · by_cases hd : commandData.length ≤ maxMsgSize
    · exact .inr (.inl ⟨hc, hd, commandWithMac_ok aes codes hc hd⟩)
    · exact .inr (.inr ⟨hc, by omega, _, commandWithMac_too_long aes codes hc (by omega)⟩)
  · have hge : maxCommandsPerSession ≤ self.counter := by
      rw [UInt32.le_iff_toNat_le]; rw [UInt32.lt_iff_toNat_lt] at hc; omega
    exact .inl ⟨hge, _, commandWithMac_of_ge aes codes hge _ _⟩

theorem finishAuthenticateSession_of_isEmpty {self : SecureChannel}
    {response : ResponseMessage CommandCode} (h : response.data = []) :
    self.finishAuthenticateSession response =
      .ok () { self with securityLevel := .Authenticated, counter := 1 } := by
  simp [finishAuthenticateSession, h]

theorem finishAuthenticateSession_of_ne_nil {self : SecureChannel}
    {response : ResponseMessage CommandCode} (h : response.data ≠ []) :
    ∃ e, self.finishAuthenticateSession response = .error (.err e) self.terminate := by
  simp [finishAuthenticateSession, List.isEmpty_iff, h, fail]

theorem encryptCommand_of_authenticated {self : SecureChannel}
    (hl : self.securityLevel = .Authenticated) (command : CommandMessage CommandCode) :
    self.encryptCommand aes codes command = self.commandWithMac aes codes codes.SessionMessage
      (encryptPad aes self.encKey (computeIcv aes self.encKey self.counter)
        (command.into codes)) := by
  simp [encryptCommand, hl]

/-- An authenticated channel under the counter limit encrypts a command into a
`SessionMessage` whose data is the padded, CBC-encrypted serialization of the command. -/
theorem encryptCommand_ok {self : SecureChannel} (hl : self.securityLevel = .Authenticated)
    (hc : self.counter < maxCommandsPerSession) {command : CommandMessage CommandCode}
    (hd : (encryptPad aes self.encKey (computeIcv aes self.encKey self.counter)
      (command.into codes)).length ≤ maxMsgSize) :
    self.encryptCommand aes codes command =
      let ciphertext := encryptPad aes self.encKey (computeIcv aes self.encKey self.counter)
        (command.into codes)
      .ok ⟨codes.SessionMessage, some self.id, ciphertext,
          some (Mac.ofTag (self.commandMac aes codes codes.SessionMessage ciphertext))⟩
        { self with
          macChainingValue := self.commandMac aes codes codes.SessionMessage ciphertext } := by
  rw [encryptCommand_of_authenticated aes codes hl]
  exact commandWithMac_ok aes codes hc hd

theorem authenticateSession_of_none {self : SecureChannel} (hl : self.securityLevel = .None)
    (hm : self.macChainingValue = Bytes.zero 16) :
    self.authenticateSession aes codes =
      self.commandWithMac aes codes codes.AuthSession (self.hostCryptogram aes).toList := by
  simp [authenticateSession, hl, hm]

/-- Everything `verify_response_mac` can end in, once the level assertion holds. -/
theorem verifyResponseMac_of_authenticated {self : SecureChannel}
    (hl : self.securityLevel = .Authenticated) (response : ResponseMessage CommandCode) :
    self.verifyResponseMac aes codes response =
      match response.sessionId with
      | none => self.terminate.fail .ProtocolError "no session ID in response"
      | some sessionId =>
        if self.id ≠ sessionId then
          self.terminate.fail .MismatchError ("message has session ID " ++
            toString sessionId.toU8.toNat ++ " (expected " ++ toString self.id.toU8.toNat ++ ")")
        else
          match response.mac with
          | none => self.panic "missing R-MAC tag!"
          | some mac =>
            if !mac.verify (self.responseMac aes codes response sessionId) then
              self.terminate.fail .VerifyFailed "R-MAC mismatch!"
            else self.incrementCounter := by
  simp only [verifyResponseMac, hl, ne_eq, not_true_eq_false, ↓reduceIte]

/-- A response that carries the channel's session ID and the right R-MAC is accepted: the
counter goes up by one. -/
theorem verifyResponseMac_of_mac {self : SecureChannel} (hl : self.securityLevel = .Authenticated)
    {response : ResponseMessage CommandCode} (hs : response.sessionId = some self.id)
    (hm : response.mac = some (Mac.ofTag (self.responseMac aes codes response self.id))) :
    self.verifyResponseMac aes codes response = self.incrementCounter := by
  rw [verifyResponseMac_of_authenticated aes codes hl]
  simp [hs, hm, Mac.verify]

/-- `verify_response_mac` returns `Ok` exactly on an authenticated channel below `u32::MAX`
and a response of its session with the right R-MAC, and then counts the message. -/
theorem verifyResponseMac_eq_ok_iff {s s' : SecureChannel} {r : ResponseMessage CommandCode} :
    s.verifyResponseMac aes codes r = .ok () s' ↔
      s.securityLevel = .Authenticated ∧ r.sessionId = some s.id ∧
        r.mac = some (Mac.ofTag (s.responseMac aes codes r s.id)) ∧
        s.counter.toNat < 0xFFFFFFFF ∧ s' = { s with counter := s.counter + 1 } := by
  constructor
  · intro h
    by_cases hl : s.securityLevel = .Authenticated
    swap
    · simp [verifyResponseMac, hl, panic] at h
    rw [verifyResponseMac_of_authenticated aes codes hl] at h
    split at h
    · cases h
    next sid hsid =>
      split_ifs at h with hid
      · cases h
      obtain rfl : s.id = sid := not_not.mp hid
      split at h
      · cases h
      next mac hmac =>
        split_ifs at h with hv
        · cases h
        rw [incrementCounter_eq] at h
        split_ifs at h with hc
        · cases h
          have hmac' : mac = Mac.ofTag (s.responseMac aes codes r s.id) :=
            (Mac.verify_iff _ _).mp (by simpa using hv)
          exact ⟨hl, hsid, hmac' ▸ hmac, hc, rfl⟩
  · rintro ⟨hl, hs, hm, hc, rfl⟩
    rw [verifyResponseMac_of_mac aes codes hl hs hm, incrementCounter_eq, if_pos hc]

variable [DecidableEq CommandCode] in
theorem decryptResponse_of_authenticated {self : SecureChannel}
    (hl : self.securityLevel = .Authenticated) (response : ResponseMessage CommandCode) :
    self.decryptResponse aes codes response =
      match self.verifyResponseMac aes codes response with
      | .error e self => .error e self
      | .ok () self' =>
        match decryptPad aes self'.encKey (computeIcv aes self.encKey self.counter)
            response.data with
        | none => self'.terminate.fail .ProtocolError "error decrypting response: BlockModeError"
        | some responseMessage =>
          Outcome.ofExcept self' ((ResponseMessage.parse codes responseMessage).map
            fun decryptedResponse =>
              { decryptedResponse with sessionId := response.sessionId }) := by
  simp only [decryptResponse, hl, ne_eq, not_true_eq_false, ↓reduceIte]

theorem authenticateSession_cases (self : SecureChannel) :
    (∃ msg, self.authenticateSession aes codes = self.panic msg) ∨
      self.authenticateSession aes codes =
        self.commandWithMac aes codes codes.AuthSession (self.hostCryptogram aes).toList := by
  unfold authenticateSession
  split_ifs <;> simp

theorem encryptCommand_cases (self : SecureChannel) (command : CommandMessage CommandCode) :
    (∃ msg, self.encryptCommand aes codes command = self.panic msg) ∨
      self.encryptCommand aes codes command = self.commandWithMac aes codes codes.SessionMessage
        (encryptPad aes self.encKey (computeIcv aes self.encKey self.counter)
          (command.into codes)) := by
  unfold encryptCommand
  split_ifs <;> simp

/-- `encrypt_command` returns `Ok` only on an authenticated channel, with the `SessionMessage`
of `encryptCommand_ok`, and changes only the chaining value. -/
theorem encryptCommand_eq_ok {s s' : SecureChannel} {command outer : CommandMessage CommandCode}
    (h : s.encryptCommand aes codes command = .ok outer s') :
    s.securityLevel = .Authenticated ∧
      outer = ⟨codes.SessionMessage, some s.id,
        encryptPad aes s.encKey (computeIcv aes s.encKey s.counter) (command.into codes),
        some (Mac.ofTag (s.commandMac aes codes codes.SessionMessage
          (encryptPad aes s.encKey (computeIcv aes s.encKey s.counter) (command.into codes))))⟩ ∧
      s' = { s with
        macChainingValue := s.commandMac aes codes codes.SessionMessage
          (encryptPad aes s.encKey (computeIcv aes s.encKey s.counter) (command.into codes)) } := by
  by_cases hl : s.securityLevel = .Authenticated
  swap
  · simp [encryptCommand, hl, panic] at h
  rw [encryptCommand_of_authenticated aes codes hl] at h
  rcases commandWithMac_cases aes codes s _ _ with
    ⟨-, e, he⟩ | ⟨-, -, he⟩ | ⟨-, -, e, he⟩ <;> rw [he] at h <;> cases h
  exact ⟨hl, rfl, rfl⟩

/-- Everything `verify_response_mac` can end in, as far as the counter goes: `Ok` with the
counter one higher, or a failure that leaves it. -/
theorem verifyResponseMac_cases (self : SecureChannel) (response : ResponseMessage CommandCode) :
    (Outcome.isOk (self.verifyResponseMac aes codes response) = false ∧
        (Outcome.state (self.verifyResponseMac aes codes response)).counter = self.counter) ∨
      (self.counter.toNat < 0xFFFFFFFF ∧
        self.verifyResponseMac aes codes response =
          .ok () { self with counter := self.counter + 1 }) := by
  unfold verifyResponseMac
  split_ifs
  · simp [panic]
  · split
    · simp [fail]
    · split_ifs
      · simp [fail]
      · split
        · simp [panic]
        · split_ifs
          · simp [fail]
          · rw [incrementCounter_eq]
            split_ifs with h
            · exact .inr ⟨h, rfl⟩
            · simp

/-! ## The counter -/

@[simp] theorem commandWithMac_counter (self : SecureChannel) (commandType : CommandCode)
    (commandData : List UInt8) :
    (Outcome.state (self.commandWithMac aes codes commandType commandData)).counter =
      self.counter := by
  rcases commandWithMac_cases aes codes self commandType commandData with
    ⟨-, e, h⟩ | ⟨-, -, h⟩ | ⟨-, -, e, h⟩ <;> rw [h] <;> rfl

theorem lt_of_commandWithMac_isOk {self : SecureChannel} {commandType : CommandCode}
    {commandData : List UInt8}
    (h : Outcome.isOk (self.commandWithMac aes codes commandType commandData)) :
    self.counter < maxCommandsPerSession := by
  rcases commandWithMac_cases aes codes self commandType commandData with
    ⟨-, e, h'⟩ | ⟨hc, -, -⟩ | ⟨-, -, e, h'⟩
  · rw [h'] at h; cases h
  · exact hc
  · rw [h'] at h; cases h

variable [DecidableEq CommandCode] in
/-- `decrypt_response` counts the response exactly when its `verify_response_mac` returns `Ok`. -/
theorem decryptResponse_counter (self : SecureChannel) (response : ResponseMessage CommandCode) :
    (Outcome.state (self.decryptResponse aes codes response)).counter.toNat =
      self.counter.toNat + if self.securityLevel = .Authenticated ∧
        Outcome.isOk (self.verifyResponseMac aes codes response) then 1 else 0 := by
  by_cases hl : self.securityLevel = .Authenticated
  · rw [decryptResponse_of_authenticated aes codes hl]
    rcases verifyResponseMac_cases aes codes self response with ⟨hok, hc⟩ | ⟨hc, h⟩
    · revert hok hc
      cases self.verifyResponseMac aes codes response <;> simp_all
    · rw [h]
      have h1 : (self.counter + 1).toNat = self.counter.toNat + 1 :=
        UInt32.toNat_add_one_of_lt (by omega)
      simp only [hl, Outcome.isOk_ok, and_self, ite_true]
      split
      · simp [fail, h1]
      · simp [h1]
  · simp [decryptResponse, hl, panic]

end SecureChannel

end YubiHsm
