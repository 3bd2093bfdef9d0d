import YubiHsm.Session.SecureChannel.Host

/-!
# The card side of the channel

The methods the mock HSM calls to play the card (`#[cfg(feature = "mockhsm")]`):
`verify_command_mac`, `verify_authenticate_session`, `decrypt_command`, `response_with_mac`
and `encrypt_response`. They mirror the host's: the command path updates the chaining value,
the response path uses S-RMAC and leaves it alone.
-/

namespace YubiHsm

namespace SecureChannel

variable (aes : Aes128) {CommandCode : Type} (codes : Codes CommandCode)

/-- The CMAC of `verify_command_mac` under S-MAC: chaining value, command code, the command's
length, session ID and data. -/
def verifiedCommandMac (self : SecureChannel) (command : CommandMessage CommandCode)
    (sessionId : SessionId) : Block :=
  aes.cmac self.macKey (self.macChainingValue.toList ++ [codes.command.toU8 command.commandType] ++
    writeU16 command.len ++ [sessionId.toU8] ++ command.data)

/-- `verify_command_mac`: check a C-MAC and chain it. -/
def verifyCommandMac (self : SecureChannel) (command : CommandMessage CommandCode) :
    Outcome Unit :=
  match command.sessionId with
  | none => self.panic "called Option::unwrap() on a None value"
  | some sessionId =>
    if sessionId ≠ self.id then
      self.panic ("session ID mismatch: " ++ toString sessionId.toU8.toNat)
    else
      let tag := self.verifiedCommandMac aes codes command sessionId
      match command.mac with
      | none => self.panic "missing C-MAC tag!"
      | some mac =>
        if !mac.verify tag then self.terminate.fail .VerifyFailed "C-MAC mismatch!"
        else .ok () { self with macChainingValue := tag }

/-- `verify_authenticate_session`: verify the host's authentication message. -/
def verifyAuthenticateSession (self : SecureChannel) (command : CommandMessage CommandCode) :
    Outcome (ResponseMessage CommandCode) :=
  if self.securityLevel ≠ .None then
    self.panic "assertion failed: security_level == SecurityLevel::None"
  else if self.macChainingValue ≠ Bytes.zero 16 then
    self.panic "assertion failed: mac_chaining_value == [0u8; MAC_SIZE * 2]"
  else if h : command.data.length = cryptogramSize then
    let expectedHostCryptogram := self.hostCryptogram aes
    let actualHostCryptogram : Cryptogram := ⟨command.data, h⟩
    if expectedHostCryptogram ≠ actualHostCryptogram then
      self.terminate.fail .VerifyFailed "host cryptogram mismatch!"
    else
      match self.verifyCommandMac aes codes command with
      | .error e self => .error e self
      | .ok () self =>
        .ok (ResponseMessage.success codes.AuthSession [])
          { self with securityLevel := .Authenticated, counter := 1 }
  else
    self.terminate.fail .ProtocolError ("expected " ++ toString cryptogramSize ++
      "-byte command data (got " ++ toString command.data.length ++ ")")

variable [DecidableEq CommandCode] in
/-- `decrypt_command`: verify and decrypt a command from the host. -/
def decryptCommand (self : SecureChannel) (encryptedCommand : CommandMessage CommandCode) :
    Outcome (CommandMessage CommandCode) :=
  if self.securityLevel ≠ .Authenticated then
    self.panic "assertion failed: security_level == SecurityLevel::Authenticated"
  else
    let icv := computeIcv aes self.encKey self.counter
    match self.verifyCommandMac aes codes encryptedCommand with
    | .error e self => .error e self
    | .ok () self =>
      match decryptPad aes self.encKey icv encryptedCommand.data with
      | none => self.terminate.fail .ProtocolError "error decrypting command: BlockModeError"
      | some commandData =>
        Outcome.ofExcept self ((CommandMessage.parse codes commandData).map
          fun decryptedCommand => { decryptedCommand with sessionId := encryptedCommand.sessionId })

/-- The CMAC of `response_with_mac` under S-RMAC. -/
def responseWithMacTag (self : SecureChannel) (code : ResponseCode CommandCode)
    (body : List UInt8) : Block :=
  aes.cmac self.rmacKey (self.macChainingValue.toList ++ [codes.response.toU8 code] ++
    writeU16 (1 + body.length + macSize) ++ [self.id.toU8] ++ body)

/-- `response_with_mac`: compute the MAC of a response and count the message. -/
def responseWithMac (self : SecureChannel) (code : ResponseCode CommandCode)
    (responseData : List UInt8) : Outcome (ResponseMessage CommandCode) :=
  if self.securityLevel ≠ .Authenticated then
    self.panic "assertion failed: security_level == SecurityLevel::Authenticated"
  else
    let tag := self.responseWithMacTag aes codes code responseData
    match self.incrementCounter with
    | .error e self => .error e self
    | .ok () self => .ok (ResponseMessage.newWithMac code self.id responseData (Mac.ofTag tag)) self

/-- `encrypt_response`: encrypt a response to be sent back to the host. -/
def encryptResponse (self : SecureChannel) (response : ResponseMessage CommandCode) :
    Outcome (ResponseMessage CommandCode) :=
  if self.securityLevel ≠ .Authenticated then
    self.panic "assertion failed: security_level == SecurityLevel::Authenticated"
  else
    let message := response.into codes
    let icv := computeIcv aes self.encKey self.counter
    let ciphertext := encryptPad aes self.encKey icv message
    self.responseWithMac aes codes (.Success codes.SessionMessage) ciphertext

/-! ## What each card method can end in -/

/-- The card's C-MAC of a command from `command_with_mac` is the host's. -/
theorem verifiedCommandMac_eq_commandMac (self : SecureChannel) (commandType : CommandCode)
    (commandData : List UInt8) (mac : Mac) :
    self.verifiedCommandMac aes codes ⟨commandType, some self.id, commandData, some mac⟩
        self.id =
      self.commandMac aes codes commandType commandData := by
  simp only [verifiedCommandMac, commandMac, CommandMessage.len, Option.isSome_some, ↓reduceIte]
  rw [show commandData.length + 1 + macSize = 1 + commandData.length + macSize by omega]

/-- The host's R-MAC of a response from `response_with_mac` is the card's. -/
theorem responseMac_eq_responseWithMacTag (self : SecureChannel) (code : ResponseCode CommandCode)
    (body : List UInt8) (mac : Mac) :
    self.responseMac aes codes (ResponseMessage.newWithMac code self.id body mac) self.id =
      self.responseWithMacTag aes codes code body := by
  simp only [responseMac, responseWithMacTag, ResponseMessage.newWithMac, ResponseMessage.len,
    Option.isSome_some, ↓reduceIte]
  rw [show body.length + 1 + macSize = 1 + body.length + macSize by omega]

/-- A command that carries the channel's session ID and the right C-MAC is accepted, and its
full tag is chained. -/
theorem verifyCommandMac_of_mac {self : SecureChannel} {command : CommandMessage CommandCode}
    (hs : command.sessionId = some self.id)
    (hm : command.mac = some (Mac.ofTag (self.verifiedCommandMac aes codes command self.id))) :
    self.verifyCommandMac aes codes command =
      .ok () { self with
        macChainingValue := self.verifiedCommandMac aes codes command self.id } := by
  simp [verifyCommandMac, hs, hm, Mac.verify]

/-- `verify_command_mac` returns `Ok` exactly on a command of the channel's session that carries
the right C-MAC, and then chains it. -/
theorem verifyCommandMac_eq_ok_iff {s s' : SecureChannel} {command : CommandMessage CommandCode} :
    s.verifyCommandMac aes codes command = .ok () s' ↔
      command.sessionId = some s.id ∧
        command.mac = some (Mac.ofTag (s.verifiedCommandMac aes codes command s.id)) ∧
        s' = { s with macChainingValue := s.verifiedCommandMac aes codes command s.id } := by
  refine ⟨fun h => ?_, fun ⟨hs, hm, h⟩ => h ▸ verifyCommandMac_of_mac aes codes hs hm⟩
  unfold verifyCommandMac at h
  split at h
  · cases h
  next sid hsid =>
    split_ifs at h with hid
    · cases h
    obtain rfl : sid = s.id := not_not.mp hid
    split at h
    · cases h
    next mac hmac =>
      dsimp only at h
      split_ifs at h with hv
      · cases h
      · cases h
        have hmac' : mac = Mac.ofTag (s.verifiedCommandMac aes codes command s.id) :=
          (Mac.verify_iff _ _).mp (by simpa using hv)
        exact ⟨hsid, hmac' ▸ hmac, rfl⟩

variable [DecidableEq CommandCode] in
theorem decryptCommand_of_authenticated {self : SecureChannel}
    (hl : self.securityLevel = .Authenticated) (command : CommandMessage CommandCode) :
    self.decryptCommand aes codes command =
      match self.verifyCommandMac aes codes command with
      | .error e self => .error e self
      | .ok () self' =>
        match decryptPad aes self'.encKey (computeIcv aes self.encKey self.counter)
            command.data with
        | none => self'.terminate.fail .ProtocolError "error decrypting command: BlockModeError"
        | some commandData =>
          Outcome.ofExcept self' ((CommandMessage.parse codes commandData).map
            fun decryptedCommand => { decryptedCommand with sessionId := command.sessionId }) := by
  simp only [decryptCommand, hl, ne_eq, not_true_eq_false, ↓reduceIte]

/-- An authenticated channel below `u32::MAX` answers with the response and its R-MAC, and
counts the message. -/
theorem responseWithMac_ok {self : SecureChannel} (hl : self.securityLevel = .Authenticated)
    (hc : self.counter.toNat < 0xFFFFFFFF) (code : ResponseCode CommandCode) (body : List UInt8) :
    self.responseWithMac aes codes code body =
      .ok (ResponseMessage.newWithMac code self.id body
          (Mac.ofTag (self.responseWithMacTag aes codes code body)))
        { self with counter := self.counter + 1 } := by
  simp only [responseWithMac, hl, ne_eq, not_true_eq_false, ↓reduceIte, incrementCounter_eq, hc]

theorem encryptResponse_of_authenticated {self : SecureChannel}
    (hl : self.securityLevel = .Authenticated) (response : ResponseMessage CommandCode) :
    self.encryptResponse aes codes response =
      self.responseWithMac aes codes (.Success codes.SessionMessage)
        (encryptPad aes self.encKey (computeIcv aes self.encKey self.counter)
          (response.into codes)) := by
  simp [encryptResponse, hl]

/-- `encrypt_response` returns `Ok` only on an authenticated channel below `u32::MAX`, with the
response of `response_with_mac` over the encrypted message, and counts the message. -/
theorem encryptResponse_eq_ok {s s' : SecureChannel} {response reply : ResponseMessage CommandCode}
    (h : s.encryptResponse aes codes response = .ok reply s') :
    s.securityLevel = .Authenticated ∧ s.counter.toNat < 0xFFFFFFFF ∧
      reply = ResponseMessage.newWithMac (.Success codes.SessionMessage) s.id
        (encryptPad aes s.encKey (computeIcv aes s.encKey s.counter) (response.into codes))
        (Mac.ofTag (s.responseWithMacTag aes codes (.Success codes.SessionMessage)
          (encryptPad aes s.encKey (computeIcv aes s.encKey s.counter) (response.into codes)))) ∧
      s' = { s with counter := s.counter + 1 } := by
  by_cases hl : s.securityLevel = .Authenticated
  swap
  · simp [encryptResponse, hl, panic] at h
  rw [encryptResponse_of_authenticated aes codes hl] at h
  by_cases hc : s.counter.toNat < 0xFFFFFFFF
  · rw [responseWithMac_ok aes codes hl hc] at h
    cases h
    exact ⟨hl, hc, rfl, rfl⟩
  · simp [responseWithMac, hl, incrementCounter_eq, hc] at h

theorem verifyAuthenticateSession_of_none {self : SecureChannel} (hl : self.securityLevel = .None)
    (hm : self.macChainingValue = Bytes.zero 16) (command : CommandMessage CommandCode) :
    self.verifyAuthenticateSession aes codes command =
      if h : command.data.length = cryptogramSize then
        if self.hostCryptogram aes ≠ ⟨command.data, h⟩ then
          self.terminate.fail .VerifyFailed "host cryptogram mismatch!"
        else
          match self.verifyCommandMac aes codes command with
          | .error e self => .error e self
          | .ok () self =>
            .ok (ResponseMessage.success codes.AuthSession [])
              { self with securityLevel := .Authenticated, counter := 1 }
      else
        self.terminate.fail .ProtocolError ("expected " ++ toString cryptogramSize ++
          "-byte command data (got " ++ toString command.data.length ++ ")") := by
  simp only [verifyAuthenticateSession, hl, hm, ne_eq, not_true_eq_false, ↓reduceIte]

end SecureChannel

end YubiHsm
