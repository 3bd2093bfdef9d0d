import YubiHsm.Session.SecureChannel.Card

/-!
# Host and card agree over whole sessions

A host channel and a card channel built by `SecureChannel::new` from the same auth key,
challenges and session ID complete the handshake, and then any number of exchanges up to
`MAX_COMMANDS_PER_SESSION - 1`: the host encrypts an inner command, the card decrypts it and
encrypts an inner response, and the host decrypts that. Every call returns `Ok`, each side
decrypts what the other sent, and this holds whether each outer message is handed over as it
is or serialized with `into` and parsed back.

The proof keeps one invariant: after the handshake and after every exchange the two channels
are *equal* (`exchange_ok`), authenticated, with a counter that has gone up by one per
exchange. Equal channels compute the same ICVs and the same MACs, so every check passes.

The handshake admits nothing else: the card authenticates exactly a command that carries the
host cryptogram, the channel's session ID and the right C-MAC
(`SecureChannel.verifyAuthenticateSession_ok_iff`). The counter limit is exact
(`counter_exhaustion`): at counter `MAX_COMMANDS_PER_SESSION - 1` one more exchange succeeds,
and after it the host's next command terminates the channel with `CommandLimitExceeded`.
-/

namespace YubiHsm

variable {CommandCode : Type} [DecidableEq CommandCode] (codes : Codes CommandCode)

/-- How an outer command reaches the card: as it is, or over the wire, serialized with
`into` and parsed back. -/
def transmitCommand (wire : Bool) (m : CommandMessage CommandCode) :
    Except Fault (CommandMessage CommandCode) :=
  if wire then CommandMessage.parse codes (m.into codes) else .ok m

/-- How an outer response reaches the host. -/
def transmitResponse (wire : Bool) (r : ResponseMessage CommandCode) :
    Except Fault (ResponseMessage CommandCode) :=
  if wire then ResponseMessage.parse codes (r.into codes) else .ok r

theorem transmitCommand_of_wellFormed {m : CommandMessage CommandCode} (h : m.WellFormed codes)
    (wire : Bool) : transmitCommand codes wire m = .ok m := by
  cases wire
  · rfl
  · exact CommandMessage.parse_into codes h

theorem transmitResponse_of_wellFormed {r : ResponseMessage CommandCode} (h : r.WellFormed codes)
    (wire : Bool) : transmitResponse codes wire r = .ok r := by
  cases wire
  · rfl
  · exact ResponseMessage.parse_into codes h

/-- One exchange of a session: the inner command the host sends, the inner response the card
answers with, and how each of the two outer messages travels. -/
structure Exchange (CommandCode : Type) where
  commandType : CommandCode
  commandData : List UInt8
  responseCode : ResponseCode CommandCode
  responseData : List UInt8
  wireCommand : Bool
  wireResponse : Bool
  deriving DecidableEq

/-- The exchanges the agreement covers: an inner command that is neither `AuthSession` nor
`SessionMessage`, so that `CommandMessage::new` builds it without a session ID or MAC, with at
most 2044 bytes of data, so that its padded encryption fits in `MAX_MSG_SIZE`; and an inner
response whose code carries no session ID, with at most `MAX_MSG_SIZE` bytes of data. These
are what makes both inner messages parse back from their serializations inside the outer
ones. -/
structure Exchange.Valid (x : Exchange CommandCode) : Prop where
  ne_authSession : x.commandType ≠ codes.AuthSession
  ne_sessionMessage : x.commandType ≠ codes.SessionMessage
  commandData_le : x.commandData.length ≤ 2044
  not_hasSessionId : hasSessionId codes x.responseCode = false
  responseData_le : x.responseData.length ≤ maxMsgSize

/-- The command the host wraps: `CommandMessage::new(code, data)`. -/
def Exchange.command (x : Exchange CommandCode) : CommandMessage CommandCode :=
  ⟨x.commandType, none, x.commandData, none⟩

/-- The response the card wraps: `ResponseMessage::new(code, data)`. -/
def Exchange.response (x : Exchange CommandCode) : ResponseMessage CommandCode :=
  ResponseMessage.new x.responseCode x.responseData

instance (x : Exchange CommandCode) : Decidable (x.Valid codes) :=
  decidable_of_iff
    (x.commandType ≠ codes.AuthSession ∧ x.commandType ≠ codes.SessionMessage ∧
      x.commandData.length ≤ 2044 ∧ hasSessionId codes x.responseCode = false ∧
      x.responseData.length ≤ maxMsgSize)
    ⟨fun ⟨a, b, c, d, e⟩ => ⟨a, b, c, d, e⟩,
      fun ⟨a, b, c, d, e⟩ => ⟨a, b, c, d, e⟩⟩

namespace Exchange.Valid

variable {codes} {x : Exchange CommandCode} (hv : x.Valid codes)
include hv

theorem command_wellFormed : x.command.WellFormed codes :=
  ⟨by simp [Exchange.command, hv.ne_authSession, hv.ne_sessionMessage],
    by simp [Exchange.command, hv.ne_authSession, hv.ne_sessionMessage],
    by have := hv.commandData_le; simp [Exchange.command, CommandMessage.len]; omega⟩

theorem response_wellFormed : x.response.WellFormed codes := by
  have hs := hv.not_hasSessionId
  have hd := hv.responseData_le
  have hr : hasRmac codes x.responseCode = false := by
    cases hr : hasRmac codes x.responseCode
    · rfl
    · simp [hasSessionId_of_hasRmac codes hr] at hs
  refine ⟨?_, ?_, ?_⟩ <;>
    simp [Exchange.response, ResponseMessage.new, ResponseMessage.len, hs, hr, maxMsgSize] at hd ⊢
  omega

end Exchange.Valid

variable (aes : Aes128)

/-! ## Each side decrypts what the other encrypted -/

namespace SecureChannel

/-- The card decrypts what the host encrypted, from an equal channel, and ends in the host's
channel. -/
theorem decryptCommand_of_encryptCommand {s s' : SecureChannel}
    (hl : s.securityLevel = .Authenticated) {command outer : CommandMessage CommandCode}
    (hw : command.WellFormed codes) (h : s.encryptCommand aes codes command = .ok outer s') :
    s.decryptCommand aes codes outer = .ok { command with sessionId := some s.id } s' := by
  rw [encryptCommand_of_authenticated aes codes hl] at h
  rcases commandWithMac_cases aes codes s _ _ with
    ⟨-, e, he⟩ | ⟨-, -, he⟩ | ⟨-, -, e, he⟩ <;> rw [he] at h <;> cases h
  rw [decryptCommand_of_authenticated aes codes hl,
    verifyCommandMac_of_mac aes codes rfl (by rw [verifiedCommandMac_eq_commandMac])]
  simp only [verifiedCommandMac_eq_commandMac, decryptPad_encryptPad,
    CommandMessage.parse_into codes hw]
  rfl

/-- The host decrypts what the card encrypted, from an equal channel, and ends in the card's
channel. -/
theorem decryptResponse_of_encryptResponse {s s' : SecureChannel}
    (hl : s.securityLevel = .Authenticated) {response reply : ResponseMessage CommandCode}
    (hw : response.WellFormed codes) (h : s.encryptResponse aes codes response = .ok reply s') :
    s.decryptResponse aes codes reply = .ok { response with sessionId := some s.id } s' := by
  rw [encryptResponse_of_authenticated aes codes hl] at h
  by_cases hc : s.counter.toNat < 0xFFFFFFFF
  · rw [responseWithMac_ok aes codes hl hc] at h
    cases h
    rw [decryptResponse_of_authenticated aes codes hl,
      verifyResponseMac_of_mac aes codes hl rfl (by rw [responseMac_eq_responseWithMacTag]; rfl),
      incrementCounter_eq, if_pos hc]
    simp only [ResponseMessage.newWithMac, decryptPad_encryptPad,
      ResponseMessage.parse_into codes hw]
    rfl
  · simp [responseWithMac, hl, incrementCounter_eq, hc] at h

end SecureChannel

/-- One exchange between a host and a card channel: the channels after it, the command the
card decrypted and the response the host decrypted. -/
def exchange (host card : SecureChannel) (x : Exchange CommandCode) :
    Except Fault (SecureChannel × SecureChannel × CommandMessage CommandCode ×
      ResponseMessage CommandCode) := do
  let command ← liftErr (CommandMessage.new x.commandType x.commandData)
  let (outer, host) ← (host.encryptCommand aes codes command).toExcept
  let outer ← transmitCommand codes x.wireCommand outer
  let (decryptedCommand, card) ← (card.decryptCommand aes codes outer).toExcept
  let (reply, card) ← (card.encryptResponse aes codes x.response).toExcept
  let reply ← transmitResponse codes x.wireResponse reply
  let (decryptedResponse, host) ← (host.decryptResponse aes codes reply).toExcept
  pure (host, card, decryptedCommand, decryptedResponse)

/-- A run of exchanges, each on the channels the one before left. -/
def exchanges (host card : SecureChannel) : List (Exchange CommandCode) →
    Except Fault (SecureChannel × SecureChannel ×
      List (CommandMessage CommandCode × ResponseMessage CommandCode))
  | [] => .ok (host, card, [])
  | x :: xs => do
    let (host, card, c, r) ← exchange codes aes host card x
    let (host, card, rest) ← exchanges host card xs
    pure (host, card, (c, r) :: rest)

/-- The handshake: `authenticate_session` on the host, `verify_authenticate_session` on the
card, `finish_authenticate_session` on the host. -/
def handshake (host card : SecureChannel) (wireCommand wireResponse : Bool) :
    Except Fault (SecureChannel × SecureChannel) := do
  let (auth, host) ← (host.authenticateSession aes codes).toExcept
  let auth ← transmitCommand codes wireCommand auth
  let (reply, card) ← (card.verifyAuthenticateSession aes codes auth).toExcept
  let reply ← transmitResponse codes wireResponse reply
  let ((), host) ← (host.finishAuthenticateSession reply).toExcept
  pure (host, card)

/-- A whole session: both channels built by `SecureChannel::new` from the same inputs, the
handshake, then the exchanges. -/
def session (id : SessionId) (authKey : AuthKey) (hostChallenge cardChallenge : Challenge)
    (wireCommand wireResponse : Bool) (xs : List (Exchange CommandCode)) :
    Except Fault (SecureChannel × SecureChannel ×
      List (CommandMessage CommandCode × ResponseMessage CommandCode)) := do
  let host := SecureChannel.new aes id authKey hostChallenge cardChallenge
  let card := SecureChannel.new aes id authKey hostChallenge cardChallenge
  let (host, card) ← handshake codes aes host card wireCommand wireResponse
  exchanges codes aes host card xs

/-! ## The handshake -/

/-- From equal channels with no security level and a zero chaining value, the handshake
succeeds and leaves the two channels equal, authenticated, with counter 1. -/
theorem handshake_ok {s : SecureChannel} (hl : s.securityLevel = .None)
    (hm : s.macChainingValue = Bytes.zero 16) (hc : s.counter < maxCommandsPerSession)
    (wireCommand wireResponse : Bool) :
    handshake codes aes s s wireCommand wireResponse =
      let t : SecureChannel := { s with
        macChainingValue := s.commandMac aes codes codes.AuthSession (s.hostCryptogram aes).toList
        securityLevel := .Authenticated
        counter := 1 }
      .ok (t, t) := by
  set cryptogram := (s.hostCryptogram aes).toList
  set tag := s.commandMac aes codes codes.AuthSession cryptogram
  have hauth : s.authenticateSession aes codes =
      .ok ⟨codes.AuthSession, some s.id, cryptogram, some (Mac.ofTag tag)⟩
        { s with macChainingValue := tag } := by
    rw [SecureChannel.authenticateSession_of_none aes codes hl hm]
    exact SecureChannel.commandWithMac_ok aes codes hc
      (by simp [cryptogram, cryptogramSize, maxMsgSize])
  have hw : (⟨codes.AuthSession, some s.id, cryptogram, some (Mac.ofTag tag)⟩ :
      CommandMessage CommandCode).WellFormed codes :=
    ⟨by simp, by simp, by simp [CommandMessage.len, cryptogram, cryptogramSize, macSize]⟩
  have hverify : s.verifyAuthenticateSession aes codes
      ⟨codes.AuthSession, some s.id, cryptogram, some (Mac.ofTag tag)⟩ =
      .ok (ResponseMessage.success codes.AuthSession [])
        { s with macChainingValue := tag, securityLevel := .Authenticated, counter := 1 } := by
    rw [SecureChannel.verifyAuthenticateSession_of_none aes codes hl hm,
      dif_pos (by simp [cryptogram, cryptogramSize]), if_neg (by simp [cryptogram]),
      SecureChannel.verifyCommandMac_of_mac aes codes rfl
        (by rw [SecureChannel.verifiedCommandMac_eq_commandMac])]
    simp only [SecureChannel.verifiedCommandMac_eq_commandMac, tag]
  have hr : (ResponseMessage.success codes.AuthSession [] : ResponseMessage CommandCode).WellFormed
      codes :=
    ⟨by simp [ResponseMessage.success, ResponseMessage.new, hasSessionId,
        codes.authSession_ne_createSession, codes.authSession_ne_sessionMessage],
      by simp [ResponseMessage.success, ResponseMessage.new, hasRmac,
        codes.authSession_ne_sessionMessage],
      by simp [ResponseMessage.success, ResponseMessage.new, ResponseMessage.len]⟩
  simp only [handshake, hauth, Outcome.toExcept_ok, Except.ok_bind,
    transmitCommand_of_wellFormed codes hw, hverify, transmitResponse_of_wellFormed codes hr,
    SecureChannel.finishAuthenticateSession_of_isEmpty
      (show (ResponseMessage.success codes.AuthSession [] : ResponseMessage CommandCode).data = []
        from rfl)]
  rfl

omit [DecidableEq CommandCode] in
/-- **The card authenticates exactly the host's message.** `verify_authenticate_session`
returns `Ok` exactly on a fresh channel (no security level, zero chaining value) and a command
that carries the host cryptogram of the channel's keys and context, the channel's session ID
and the right C-MAC; the `Ok` is then the empty `Success(AuthSession)` reply, and the channel
is authenticated at counter 1 with the C-MAC chained. -/
theorem SecureChannel.verifyAuthenticateSession_ok_iff (s : SecureChannel)
    (command : CommandMessage CommandCode) (r : ResponseMessage CommandCode) (s' : SecureChannel) :
    s.verifyAuthenticateSession aes codes command = .ok r s' ↔
      (s.securityLevel = .None ∧ s.macChainingValue = Bytes.zero 16 ∧
        command.data = (s.hostCryptogram aes).toList ∧ command.sessionId = some s.id ∧
        command.mac = some (Mac.ofTag (s.verifiedCommandMac aes codes command s.id))) ∧
      r = ResponseMessage.success codes.AuthSession [] ∧
      s' = { s with
        macChainingValue := s.verifiedCommandMac aes codes command s.id
        securityLevel := .Authenticated
        counter := 1 } := by
  constructor
  · intro h
    by_cases hl : s.securityLevel = .None
    swap
    · simp [verifyAuthenticateSession, hl, panic] at h
    by_cases hm : s.macChainingValue = Bytes.zero 16
    swap
    · simp [verifyAuthenticateSession, hl, hm, panic] at h
    rw [verifyAuthenticateSession_of_none aes codes hl hm] at h
    split at h
    · next hlen =>
      split_ifs at h with hc
      · cases h
      cases hv : s.verifyCommandMac aes codes command with
      | error e s1 => rw [hv] at h; cases h
      | ok u s1 =>
        rw [hv] at h
        obtain ⟨hs, hmac, rfl⟩ := (verifyCommandMac_eq_ok_iff aes codes).mp hv
        cases h
        exact ⟨⟨hl, hm, congrArg Subtype.val (not_not.mp hc).symm, hs, hmac⟩, rfl, rfl⟩
    · cases h
  · rintro ⟨⟨hl, hm, hd, hs, hmac⟩, rfl, rfl⟩
    have hlen : command.data.length = cryptogramSize := by simp [hd]
    have hcry : s.hostCryptogram aes = ⟨command.data, hlen⟩ := Subtype.ext hd.symm
    rw [verifyAuthenticateSession_of_none aes codes hl hm, dif_pos hlen,
      if_neg (not_not.mpr hcry), verifyCommandMac_of_mac aes codes hs hmac]

/-! ## Exchanges -/

/-- From equal authenticated channels under the counter limit, an exchange of valid inner
messages succeeds: each side decrypts what the other sent, and the two channels end equal,
changed only in the chaining value and a counter one higher. -/
theorem exchange_ok {s : SecureChannel} (hl : s.securityLevel = .Authenticated)
    (hc : s.counter < maxCommandsPerSession) {x : Exchange CommandCode} (hv : x.Valid codes) :
    ∃ tag : Block, exchange codes aes s s x = .ok
      ({ s with macChainingValue := tag, counter := s.counter + 1 },
        { s with macChainingValue := tag, counter := s.counter + 1 },
        { x.command with sessionId := some s.id }, { x.response with sessionId := some s.id }) := by
  have hc' : s.counter.toNat < 0xFFFFFFFF := by
    rw [UInt32.lt_iff_toNat_lt, toNat_maxCommandsPerSession] at hc; omega
  have hd := hv.commandData_le
  have hnew : CommandMessage.new x.commandType x.commandData = .ok x.command := by
    simp [CommandMessage.new, Exchange.command, maxMsgSize]; omega
  -- the host's outer command
  set ct := encryptPad aes s.encKey (computeIcv aes s.encKey s.counter) (x.command.into codes)
  have hct : ct.length ≤ maxMsgSize := by
    simp only [ct, length_encryptPad, CommandMessage.length_into]
    simp [Exchange.command, CommandMessage.len, maxMsgSize]; omega
  have henc := SecureChannel.encryptCommand_ok aes codes hl hc hct
  have hdec :=
    SecureChannel.decryptCommand_of_encryptCommand codes aes hl hv.command_wellFormed henc
  have htc := transmitCommand_of_wellFormed codes
    (CommandMessage.wellFormed_sessionMessage codes s.id ct
      (Mac.ofTag (s.commandMac aes codes codes.SessionMessage ct))
      (by simp only [maxMsgSize] at hct; omega)) x.wireCommand
  -- the card's outer response
  set s1 : SecureChannel :=
    { s with macChainingValue := s.commandMac aes codes codes.SessionMessage ct }
  have hl1 : s1.securityLevel = .Authenticated := hl
  set ct' := encryptPad aes s1.encKey (computeIcv aes s1.encKey s1.counter) (x.response.into codes)
  have hresp :=
    SecureChannel.responseWithMac_ok aes codes hl1 hc' (.Success codes.SessionMessage) ct'
  rw [← SecureChannel.encryptResponse_of_authenticated aes codes hl1] at hresp
  have hct' : ct'.length + 9 ≤ 0xFFFF := by
    have := hv.responseData_le
    simp only [ct', length_encryptPad, ResponseMessage.length_into]
    simp [Exchange.response, ResponseMessage.new, ResponseMessage.len, maxMsgSize] at this ⊢
    omega
  have htr := transmitResponse_of_wellFormed codes
    (ResponseMessage.wellFormed_newWithMac codes s1.id ct'
      (Mac.ofTag (s1.responseWithMacTag aes codes (.Success codes.SessionMessage) ct')) hct')
    x.wireResponse
  have hdecr := SecureChannel.decryptResponse_of_encryptResponse codes aes hl1
    hv.response_wellFormed hresp
  refine ⟨s.commandMac aes codes codes.SessionMessage ct, ?_⟩
  simp only [exchange, hnew, liftErr_ok, Except.ok_bind, henc, Outcome.toExcept_ok, htc, hdec,
    hresp, htr, hdecr]
  rfl

/-- A run of valid exchanges from equal authenticated channels, with room under the counter
limit for all of them, succeeds: each side decrypts what the other sent, and the channels end
equal and authenticated, with the counter one higher per exchange. -/
theorem exchanges_ok {s : SecureChannel} (hl : s.securityLevel = .Authenticated)
    {xs : List (Exchange CommandCode)}
    (hn : s.counter.toNat + xs.length ≤ maxCommandsPerSession.toNat)
    (hv : ∀ x ∈ xs, x.Valid codes) :
    ∃ t : SecureChannel, exchanges codes aes s s xs = .ok (t, t, xs.map fun x =>
        ({ x.command with sessionId := some s.id }, { x.response with sessionId := some s.id })) ∧
      t.securityLevel = .Authenticated ∧ t.id = s.id ∧
      t.counter.toNat = s.counter.toNat + xs.length := by
  induction xs generalizing s with
  | nil => exact ⟨s, rfl, hl, rfl, rfl⟩
  | cons x xs ih =>
    rw [List.length_cons, toNat_maxCommandsPerSession] at hn
    have hc : s.counter < maxCommandsPerSession := by
      rw [UInt32.lt_iff_toNat_lt, toNat_maxCommandsPerSession]; omega
    obtain ⟨tag, hx⟩ := exchange_ok codes aes hl hc (hv x (.head _))
    have h1 : (s.counter + 1).toNat = s.counter.toNat + 1 := UInt32.toNat_add_one_of_lt (by omega)
    obtain ⟨t, ht, htl, hti, htc⟩ :=
      @ih { s with macChainingValue := tag, counter := s.counter + 1 } hl
        (by simp only [h1, toNat_maxCommandsPerSession]; omega) fun x hx => hv x (.tail _ hx)
    refine ⟨t, ?_, htl, hti, by simp only [htc, h1, List.length_cons]; omega⟩
    simp only [exchanges, hx, Except.ok_bind, ht]
    rfl

/-! ## Whole sessions -/

/-- Host and card agree over whole sessions. For any session ID, auth key and challenges, and
any run of at most `MAX_COMMANDS_PER_SESSION - 1` valid exchanges, each outer message handed
over directly or over the wire, every call of the session returns `Ok`: the card decrypts each
inner command and the host each inner response, with the session ID set, and the two channels
end equal and authenticated, with counter `1 + n`. -/
theorem session_ok (id : SessionId) (authKey : AuthKey) (hostChallenge cardChallenge : Challenge)
    (wireCommand wireResponse : Bool) (xs : List (Exchange CommandCode))
    (hn : xs.length ≤ maxCommandsPerSession.toNat - 1) (hv : ∀ x ∈ xs, x.Valid codes) :
    ∃ s : SecureChannel,
      session codes aes id authKey hostChallenge cardChallenge wireCommand wireResponse xs =
        .ok (s, s, xs.map fun x =>
          ({ x.command with sessionId := some id }, { x.response with sessionId := some id })) ∧
      s.securityLevel = .Authenticated ∧ s.counter.toNat = 1 + xs.length := by
  set s := SecureChannel.new aes id authKey hostChallenge cardChallenge
  obtain ⟨t, ht, htl, -, htc⟩ := @exchanges_ok _ _ codes aes { s with
    macChainingValue := s.commandMac aes codes codes.AuthSession (s.hostCryptogram aes).toList
    securityLevel := .Authenticated
    counter := 1 } rfl xs (by
      have : (1 : UInt32).toNat = 1 := rfl
      simp only [toNat_maxCommandsPerSession, this] at hn ⊢; omega) hv
  refine ⟨t, ?_, htl, htc⟩
  have hc : s.counter < maxCommandsPerSession := by
    show (0 : UInt32) < maxCommandsPerSession; decide
  simp only [session, @handshake_ok _ _ codes aes s rfl rfl hc, Except.ok_bind]
  exact ht

/-- A sample session of one `Echo` exchange of two bytes, the outer messages over the wire. -/
theorem session_ok_echo :
    ([(⟨.Echo, [72, 105], .Success .Echo, [72, 105], true, false⟩ :
          Exchange SampleCommand)].length ≤ maxCommandsPerSession.toNat - 1 ∧
      ∀ x ∈ [(⟨.Echo, [72, 105], .Success .Echo, [72, 105], true, false⟩ :
          Exchange SampleCommand)],
        x.Valid Codes.sample) ∧
    ∃ s : SecureChannel,
      session Codes.sample Aes128.sample ⟨0, by decide⟩ ⟨Bytes.zero 16, Bytes.zero 16⟩
          (Bytes.zero 8) (Bytes.zero 8) true true
          [⟨.Echo, [72, 105], .Success .Echo, [72, 105], true, false⟩] =
        .ok (s, s, [(⟨.Echo, some ⟨0, by decide⟩, [72, 105], none⟩,
          ⟨.Success .Echo, some ⟨0, by decide⟩, [72, 105], none⟩)]) ∧
      s.securityLevel = .Authenticated ∧ s.counter.toNat = 1 + 1 :=
  ⟨⟨by decide, by decide⟩, session_ok Codes.sample Aes128.sample _ _ _ _ true true _
    (by decide) (by decide)⟩

/-! ## The counter limit -/

/-- **The counter limit is exact.** From equal authenticated channels at counter
`MAX_COMMANDS_PER_SESSION - 1`, a valid exchange still succeeds and leaves both channels at
`MAX_COMMANDS_PER_SESSION`; there the host's next `encrypt_command`, of any command, terminates
the channel and fails with `CommandLimitExceeded`. -/
theorem counter_exhaustion {s : SecureChannel} (hl : s.securityLevel = .Authenticated)
    (hc : s.counter = maxCommandsPerSession - 1) {x : Exchange CommandCode} (hv : x.Valid codes) :
    ∃ t : SecureChannel, t.securityLevel = .Authenticated ∧ t.counter = maxCommandsPerSession ∧
      (∃ c r, exchange codes aes s s x = .ok (t, t, c, r)) ∧
      ∀ command : CommandMessage CommandCode, t.encryptCommand aes codes command =
        t.terminate.fail .CommandLimitExceeded
          ("max of " ++ toString maxCommandsPerSession.toNat ++
            " command per session exceeded") := by
  have hlt : s.counter < maxCommandsPerSession := by rw [hc]; decide
  have hmax : s.counter + 1 = maxCommandsPerSession := by rw [hc]; decide
  obtain ⟨tag, h⟩ := exchange_ok codes aes hl hlt hv
  set t : SecureChannel := { s with macChainingValue := tag, counter := s.counter + 1 }
  have htl : t.securityLevel = .Authenticated := hl
  have htc : t.counter = maxCommandsPerSession := hmax
  refine ⟨t, htl, htc, ⟨_, _, h⟩, fun command => ?_⟩
  rw [SecureChannel.encryptCommand_of_authenticated aes codes htl,
    SecureChannel.commandWithMac_of_ge aes codes (by rw [htc]; decide)]

/-- An `Echo` exchange at counter `0xFFFFF` on the sample channel. -/
theorem counter_exhaustion_echo :
    ({ SecureChannel.sample with
        securityLevel := .Authenticated, counter := maxCommandsPerSession - 1 } :
      SecureChannel).securityLevel = .Authenticated ∧
    ({ SecureChannel.sample with
        securityLevel := .Authenticated, counter := maxCommandsPerSession - 1 } :
      SecureChannel).counter = maxCommandsPerSession - 1 ∧
    (⟨.Echo, [72, 105], .Success .Echo, [72, 105], true, false⟩ :
      Exchange SampleCommand).Valid Codes.sample ∧
    ∃ t : SecureChannel, t.securityLevel = .Authenticated ∧ t.counter = maxCommandsPerSession ∧
      (∃ c r, exchange Codes.sample Aes128.sample
        { SecureChannel.sample with
          securityLevel := .Authenticated, counter := maxCommandsPerSession - 1 }
        { SecureChannel.sample with
          securityLevel := .Authenticated, counter := maxCommandsPerSession - 1 }
        ⟨.Echo, [72, 105], .Success .Echo, [72, 105], true, false⟩ = .ok (t, t, c, r)) ∧
      ∀ command : CommandMessage SampleCommand,
        t.encryptCommand Aes128.sample Codes.sample command =
          t.terminate.fail .CommandLimitExceeded ("max of " ++
            toString maxCommandsPerSession.toNat ++ " command per session exceeded") :=
  have hl : ({ SecureChannel.sample with
      securityLevel := .Authenticated, counter := maxCommandsPerSession - 1 } :
      SecureChannel).securityLevel = .Authenticated := rfl
  have hc : ({ SecureChannel.sample with
      securityLevel := .Authenticated, counter := maxCommandsPerSession - 1 } :
      SecureChannel).counter = maxCommandsPerSession - 1 := rfl
  have hv : (⟨.Echo, [72, 105], .Success .Echo, [72, 105], true, false⟩ :
      Exchange SampleCommand).Valid Codes.sample := by decide
  ⟨hl, hc, hv, counter_exhaustion Codes.sample Aes128.sample hl hc hv⟩

end YubiHsm
