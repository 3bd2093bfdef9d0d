import YubiHsm.Session.SecureChannel.Agreement

/-!
# Host and card over a link that loses responses

Both sides derive each message's ICV from their own message counter (`compute_icv`), and
neither counter travels with the message: the host counts a message when it verifies a
response (`verify_response_mac`), the card when it answers (`response_with_mac`). The C-MAC
and the R-MAC cover the chaining value and the message but not the counter, so nothing in the
channel notices when the two counters part.

`LossyReachable` is the request–response loop between a host channel and a card channel, from
one authenticated channel on both sides, over a link that may lose the card's answers: each
round the host encrypts a command and the card decrypts it and answers; the answer reaches the
host, which decrypts it, or is lost, and the host goes on with its next command. A lost
command is not in the model: the card would then check a C-MAC over a chaining value it never
had, with an outcome that depends on the CMAC.

Over every run the two channels keep one session: the same keys, session ID, context and
chaining value, both authenticated, with the card's counter ahead of the host's by the number
of lost answers (`CounterSkew`, `LossyReachable.counterSkew`). The channel never resynchronizes:

* `decryptCommand_of_encryptCommand_at`, `decryptResponse_of_encryptResponse_at`: a receiver
  that agrees with the sender in everything but the counter accepts the MAC and decrypts under
  the ICV of its own counter;
* `decryptPad_encryptPad_iv` (in `Crypto`): CBC under the wrong ICV garbles the first block
  of the padded message only, XORing it with the difference of the two ICVs, which is zero
  exactly when the counters are equal (`computeIcv_injective`). The unpadding that follows
  returns a message of at least a block with its first block XORed, and fails or returns
  garbage on a shorter one (`garbledPlaintext`);
* `lostResponses_garble_messages`: once an answer is lost, every MAC check still passes, but
  every later command the card decrypts and every later answer the host decrypts is the
  garbled plaintext of the sent message under one nonzero block, never the message itself;
  where its unpadding fails, the receiver terminates the channel.
-/

namespace YubiHsm

namespace SecureChannel

variable (aes : Aes128) {CommandCode : Type} [DecidableEq CommandCode] (codes : Codes CommandCode)

/-! ## A receiver with another counter -/

/-- The card, at any counter `k`, accepts the C-MAC of a command that an otherwise equal host
channel encrypted, chains it as the host did, and decrypts the host's ciphertext under the ICV
of `k`. -/
theorem decryptCommand_of_encryptCommand_at {s s' : SecureChannel}
    {command outer : CommandMessage CommandCode}
    (h : s.encryptCommand aes codes command = .ok outer s') (k : UInt32) :
    ({ s with counter := k } : SecureChannel).decryptCommand aes codes outer =
      match decryptPad aes s.encKey (computeIcv aes s.encKey k)
          (encryptPad aes s.encKey (computeIcv aes s.encKey s.counter) (command.into codes)) with
      | none => ({ s' with counter := k } : SecureChannel).terminate.fail .ProtocolError
          "error decrypting command: BlockModeError"
      | some commandData =>
        Outcome.ofExcept { s' with counter := k } ((CommandMessage.parse codes commandData).map
          fun decryptedCommand => { decryptedCommand with sessionId := some s.id }) := by
  obtain ⟨hl, rfl, rfl⟩ := encryptCommand_eq_ok aes codes h
  have hmac := verifiedCommandMac_eq_commandMac aes codes { s with counter := k }
    codes.SessionMessage
    (encryptPad aes s.encKey (computeIcv aes s.encKey s.counter) (command.into codes))
    (Mac.ofTag (s.commandMac aes codes codes.SessionMessage
      (encryptPad aes s.encKey (computeIcv aes s.encKey s.counter) (command.into codes))))
  have hl' : ({ s with counter := k } : SecureChannel).securityLevel = .Authenticated := hl
  rw [decryptCommand_of_authenticated aes codes hl',
    verifyCommandMac_of_mac aes codes rfl (by rw [hmac]; rfl), hmac]
  rfl

/-- The host, at any counter `k` below `u32::MAX`, accepts the R-MAC of a response that an
otherwise equal card channel encrypted, counts it, and decrypts the card's ciphertext under
the ICV of `k`. -/
theorem decryptResponse_of_encryptResponse_at {s s' : SecureChannel}
    {response reply : ResponseMessage CommandCode}
    (h : s.encryptResponse aes codes response = .ok reply s') {k : UInt32}
    (hk : k.toNat < 0xFFFFFFFF) :
    ({ s with counter := k } : SecureChannel).decryptResponse aes codes reply =
      match decryptPad aes s.encKey (computeIcv aes s.encKey k)
          (encryptPad aes s.encKey (computeIcv aes s.encKey s.counter) (response.into codes)) with
      | none => ({ s with counter := k + 1 } : SecureChannel).terminate.fail .ProtocolError
          "error decrypting response: BlockModeError"
      | some responseMessage =>
        Outcome.ofExcept { s with counter := k + 1 }
          ((ResponseMessage.parse codes responseMessage).map
            fun decryptedResponse => { decryptedResponse with sessionId := some s.id }) := by
  obtain ⟨hl, -, rfl, rfl⟩ := encryptResponse_eq_ok aes codes h
  have hmac := responseMac_eq_responseWithMacTag aes codes { s with counter := k }
    (.Success codes.SessionMessage)
    (encryptPad aes s.encKey (computeIcv aes s.encKey s.counter) (response.into codes))
    (Mac.ofTag (s.responseWithMacTag aes codes (.Success codes.SessionMessage)
      (encryptPad aes s.encKey (computeIcv aes s.encKey s.counter) (response.into codes))))
  have hl' : ({ s with counter := k } : SecureChannel).securityLevel = .Authenticated := hl
  rw [decryptResponse_of_authenticated aes codes hl',
    verifyResponseMac_of_mac aes codes hl' rfl (by rw [hmac]; rfl), incrementCounter_eq,
    if_pos (show ({ s with counter := k } : SecureChannel).counter.toNat < 0xFFFFFFFF from hk)]
  rfl

end SecureChannel

/-! ## The counter skew -/

/-- Host and card hold one session, both authenticated, with the card's counter `n` messages
ahead of the host's. -/
structure CounterSkew (host card : SecureChannel) (n : Nat) : Prop where
  authenticated : host.securityLevel = .Authenticated
  card_eq : card = { host with counter := card.counter }
  counter_toNat : card.counter.toNat = host.counter.toNat + n

/-- The XOR of the host's ICV and the card's, both under the session's S-ENC. -/
def icvDifference (aes : Aes128) (host card : SecureChannel) : Block :=
  Bytes.xor (computeIcv aes host.encKey host.counter) (computeIcv aes host.encKey card.counter)

namespace CounterSkew

variable {host card host₁ card₁ : SecureChannel} {n : Nat} (hs : CounterSkew host card n)
include hs

theorem host_eq : host = { card with counter := host.counter } := by
  rw [hs.card_eq]

/-- The ICVs differ exactly when the counters are apart. -/
theorem icvDifference_eq_zero_iff (aes : Aes128) :
    icvDifference aes host card = Bytes.zero 16 ↔ n = 0 := by
  rw [icvDifference, Bytes.xor_eq_zero_iff, (computeIcv_injective aes _).eq_iff]
  have := hs.counter_toNat
  exact ⟨fun h => by rw [← h] at this; omega, fun h => UInt32.toNat.inj (by omega)⟩

variable {aes : Aes128} {CommandCode : Type} [DecidableEq CommandCode] {codes : Codes CommandCode}
  {command outer inner : CommandMessage CommandCode}
  {response reply received : ResponseMessage CommandCode}

/-- What the card does with the host's next command: it accepts the C-MAC and decrypts under
its own ICV, which garbles the command's first block. -/
theorem decryptCommand (henc : host.encryptCommand aes codes command = .ok outer host₁) :
    card.decryptCommand aes codes outer =
      match garbledPlaintext (icvDifference aes host card) (command.into codes) with
      | none => ({ host₁ with counter := card.counter } : SecureChannel).terminate.fail
          .ProtocolError "error decrypting command: BlockModeError"
      | some commandData =>
        Outcome.ofExcept { host₁ with counter := card.counter }
          ((CommandMessage.parse codes commandData).map
            fun d => { d with sessionId := some host.id }) := by
  conv_lhs => rw [hs.card_eq]
  rw [SecureChannel.decryptCommand_of_encryptCommand_at aes codes henc, decryptPad_encryptPad_iv]
  rfl

/-- What the host does with the card's answer: it accepts the R-MAC, counts it and decrypts
under its own ICV. -/
theorem decryptResponse (hrep : card.encryptResponse aes codes response = .ok reply card₁) :
    host.decryptResponse aes codes reply =
      match garbledPlaintext (icvDifference aes host card) (response.into codes) with
      | none => ({ host with counter := host.counter + 1 } : SecureChannel).terminate.fail
          .ProtocolError "error decrypting response: BlockModeError"
      | some responseMessage =>
        Outcome.ofExcept { host with counter := host.counter + 1 }
          ((ResponseMessage.parse codes responseMessage).map
            fun d => { d with sessionId := some host.id }) := by
  obtain ⟨-, hc, -, -⟩ := SecureChannel.encryptResponse_eq_ok aes codes hrep
  have hk : host.counter.toNat < 0xFFFFFFFF := by have := hs.counter_toNat; omega
  conv_lhs => rw [hs.host_eq]
  rw [SecureChannel.decryptResponse_of_encryptResponse_at aes codes hrep hk,
    decryptPad_encryptPad_iv, Bytes.xor_comm, hs.card_eq]
  rfl

/-- The card's channel after it accepted the host's command is the host's, at the card's
counter. -/
theorem decryptCommand_state (henc : host.encryptCommand aes codes command = .ok outer host₁)
    (hdec : card.decryptCommand aes codes outer = .ok inner card₁) :
    card₁ = { host₁ with counter := card.counter } := by
  rw [hs.card_eq, SecureChannel.decryptCommand_of_encryptCommand_at aes codes henc] at hdec
  split at hdec
  · cases hdec
  · simpa using (congrArg Outcome.state hdec).symm

/-- A command the card accepts keeps the skew. -/
theorem commandAccepted (henc : host.encryptCommand aes codes command = .ok outer host₁)
    (hdec : card.decryptCommand aes codes outer = .ok inner card₁) : CounterSkew host₁ card₁ n := by
  obtain rfl := hs.decryptCommand_state henc hdec
  obtain ⟨-, -, rfl⟩ := SecureChannel.encryptCommand_eq_ok aes codes henc
  exact ⟨hs.authenticated, rfl, hs.counter_toNat⟩

omit [DecidableEq CommandCode] in
/-- An answer the card sends and the host never sees adds one to the skew. -/
theorem answerLost (hrep : card.encryptResponse aes codes response = .ok reply card₁) :
    CounterSkew host card₁ (n + 1) := by
  obtain ⟨-, hc, -, rfl⟩ := SecureChannel.encryptResponse_eq_ok aes codes hrep
  refine ⟨hs.authenticated, by rw [hs.card_eq], ?_⟩
  rw [UInt32.toNat_add_one_of_lt (by omega), hs.counter_toNat]
  omega

/-- An answer that reaches the host, which accepts it, leaves the skew as it was. -/
theorem answerDelivered (hrep : card.encryptResponse aes codes response = .ok reply card₁)
    (hrecv : host.decryptResponse aes codes reply = .ok received host₁) :
    CounterSkew host₁ card₁ n := by
  obtain ⟨hl, hc, -, rfl⟩ := SecureChannel.encryptResponse_eq_ok aes codes hrep
  have hk : host.counter.toNat < 0xFFFFFFFF := by have := hs.counter_toNat; omega
  conv_lhs at hrecv => rw [hs.host_eq]
  rw [SecureChannel.decryptResponse_of_encryptResponse_at aes codes hrep hk] at hrecv
  split at hrecv
  · cases hrecv
  obtain rfl := by simpa using (congrArg Outcome.state hrecv).symm
  refine ⟨hl, rfl, ?_⟩
  rw [UInt32.toNat_add_one_of_lt (by omega), UInt32.toNat_add_one_of_lt (by omega),
    hs.counter_toNat]
  omega

end CounterSkew

/-! ## Runs over a lossy link -/

section

variable (aes : Aes128) {CommandCode : Type} [DecidableEq CommandCode] (codes : Codes CommandCode)

/-- The host and card channels, and the number of lost answers, that the request–response
loop reaches from the authenticated channel `s` on both sides when the card's answers may be
lost. Every call in a round returns `Ok`. -/
inductive LossyReachable (s : SecureChannel) : SecureChannel → SecureChannel → Nat → Prop
  | start (hl : s.securityLevel = .Authenticated) : LossyReachable s s s 0
  /-- The host's command reaches the card, and the card's answer reaches the host. -/
  | delivered {host card host₁ card₁ card₂ host₂ : SecureChannel} {n : Nat}
      {command outer inner : CommandMessage CommandCode}
      {response reply received : ResponseMessage CommandCode}
      (hr : LossyReachable s host card n)
      (henc : host.encryptCommand aes codes command = .ok outer host₁)
      (hdec : card.decryptCommand aes codes outer = .ok inner card₁)
      (hrep : card₁.encryptResponse aes codes response = .ok reply card₂)
      (hrecv : host₁.decryptResponse aes codes reply = .ok received host₂) :
      LossyReachable s host₂ card₂ n
  /-- The host's command reaches the card, and the card's answer is lost. -/
  | lost {host card host₁ card₁ card₂ : SecureChannel} {n : Nat}
      {command outer inner : CommandMessage CommandCode}
      {response reply : ResponseMessage CommandCode}
      (hr : LossyReachable s host card n)
      (henc : host.encryptCommand aes codes command = .ok outer host₁)
      (hdec : card.decryptCommand aes codes outer = .ok inner card₁)
      (hrep : card₁.encryptResponse aes codes response = .ok reply card₂) :
      LossyReachable s host₁ card₂ (n + 1)

variable {aes codes}

/-- Every run keeps one session, skewed by the number of lost answers. -/
theorem LossyReachable.counterSkew {s host card : SecureChannel} {n : Nat}
    (hr : LossyReachable aes codes s host card n) : CounterSkew host card n := by
  induction hr with
  | start hl => exact ⟨hl, rfl, rfl⟩
  | delivered _ henc hdec hrep hrecv ih =>
    exact (ih.commandAccepted henc hdec).answerDelivered hrep hrecv
  | lost _ henc hdec hrep ih => exact (ih.commandAccepted henc hdec).answerLost hrep

variable (aes codes)

/-- **A lost answer garbles the rest of the session.** Over every run of the request–response
loop in which the card's answers may be lost, host and card keep one session with the card's
counter ahead by the number of lost answers. Every later command passes the card's C-MAC check
and the card decrypts it to the garbled plaintext of the host's serialized command under the
difference of the two ICVs, terminating the channel where its unpadding fails; every later
answer passes the host's R-MAC check, counts, and decrypts the same way. A message of at least
a block comes out with its first block XORed with that difference, and a message of any length
comes out as it was sent exactly when no answer was lost. -/
theorem lostResponses_garble_messages {s host card : SecureChannel} {n : Nat}
    (hr : LossyReachable aes codes s host card n) :
    CounterSkew host card n ∧
    (∀ message : List UInt8,
      (garbledPlaintext (icvDifference aes host card) message = some message ↔ n = 0) ∧
      (16 ≤ message.length → garbledPlaintext (icvDifference aes host card) message =
        some (xorFirstBlock (icvDifference aes host card) message))) ∧
    ∀ (command outer : CommandMessage CommandCode) (host₁ : SecureChannel),
      host.encryptCommand aes codes command = .ok outer host₁ →
      card.decryptCommand aes codes outer =
          (match garbledPlaintext (icvDifference aes host card) (command.into codes) with
          | none => ({ host₁ with counter := card.counter } : SecureChannel).terminate.fail
              .ProtocolError "error decrypting command: BlockModeError"
          | some commandData =>
            Outcome.ofExcept { host₁ with counter := card.counter }
              ((CommandMessage.parse codes commandData).map
                fun d => { d with sessionId := some host.id })) ∧
      ∀ (inner : CommandMessage CommandCode) (card₁ : SecureChannel)
        (response reply : ResponseMessage CommandCode) (card₂ : SecureChannel),
        card.decryptCommand aes codes outer = .ok inner card₁ →
        card₁.encryptResponse aes codes response = .ok reply card₂ →
        host₁.decryptResponse aes codes reply =
          match garbledPlaintext (icvDifference aes host card) (response.into codes) with
          | none => ({ host₁ with counter := host.counter + 1 } : SecureChannel).terminate.fail
              .ProtocolError "error decrypting response: BlockModeError"
          | some responseMessage =>
            Outcome.ofExcept { host₁ with counter := host.counter + 1 }
              ((ResponseMessage.parse codes responseMessage).map
                fun d => { d with sessionId := some host.id }) := by
  have hs := hr.counterSkew
  refine ⟨hs, fun message => ⟨by rw [garbledPlaintext_eq_some_self_iff,
      hs.icvDifference_eq_zero_iff], fun h16 => garbledPlaintext_of_le h16 _⟩,
    fun command outer host₁ henc => ⟨hs.decryptCommand henc,
      fun inner card₁ response reply card₂ hdec hrep => ?_⟩⟩
  have hs₁ := hs.commandAccepted henc hdec
  obtain rfl := hs.decryptCommand_state henc hdec
  obtain ⟨-, -, rfl⟩ := SecureChannel.encryptCommand_eq_ok aes codes henc
  exact hs₁.decryptResponse hrep

end

/-- The tests' `Echo` of `"Hello, world!"` on the authenticated sample channel, with the card's
`Success` answer lost. -/
theorem lostResponses_garble_messages_echo :
    ∃ host card : SecureChannel,
      LossyReachable Aes128.sample Codes.sample
        { SecureChannel.sample with securityLevel := .Authenticated, counter := 1 } host card 1 ∧
      CounterSkew host card 1 ∧
      (∀ message : List UInt8,
        (garbledPlaintext (icvDifference Aes128.sample host card) message = some message ↔
          1 = 0) ∧
        (16 ≤ message.length → garbledPlaintext (icvDifference Aes128.sample host card) message =
          some (xorFirstBlock (icvDifference Aes128.sample host card) message))) ∧
      ∀ (command outer : CommandMessage SampleCommand) (host₁ : SecureChannel),
        host.encryptCommand Aes128.sample Codes.sample command = .ok outer host₁ →
        card.decryptCommand Aes128.sample Codes.sample outer =
            (match garbledPlaintext (icvDifference Aes128.sample host card)
                (command.into Codes.sample) with
            | none => ({ host₁ with counter := card.counter } : SecureChannel).terminate.fail
                .ProtocolError "error decrypting command: BlockModeError"
            | some commandData =>
              Outcome.ofExcept { host₁ with counter := card.counter }
                ((CommandMessage.parse Codes.sample commandData).map
                  fun d => { d with sessionId := some host.id })) ∧
        ∀ (inner : CommandMessage SampleCommand) (card₁ : SecureChannel)
          (response reply : ResponseMessage SampleCommand) (card₂ : SecureChannel),
          card.decryptCommand Aes128.sample Codes.sample outer = .ok inner card₁ →
          card₁.encryptResponse Aes128.sample Codes.sample response = .ok reply card₂ →
          host₁.decryptResponse Aes128.sample Codes.sample reply =
            match garbledPlaintext (icvDifference Aes128.sample host card)
                (response.into Codes.sample) with
            | none => ({ host₁ with counter := host.counter + 1 } : SecureChannel).terminate.fail
                .ProtocolError "error decrypting response: BlockModeError"
            | some responseMessage =>
              Outcome.ofExcept { host₁ with counter := host.counter + 1 }
                ((ResponseMessage.parse Codes.sample responseMessage).map
                  fun d => { d with sessionId := some host.id }) := by
  have hv : (⟨.Echo, [72, 101, 108, 108, 111, 44, 32, 119, 111, 114, 108, 100, 33],
      .Success .Echo, [72, 101, 108, 108, 111, 44, 32, 119, 111, 114, 108, 100, 33], false,
      false⟩ : Exchange SampleCommand).Valid Codes.sample := by decide
  have hl : ({ SecureChannel.sample with securityLevel := .Authenticated, counter := 1 } :
      SecureChannel).securityLevel = .Authenticated := rfl
  obtain ⟨outer, host₁, henc, hl₁, hc₁⟩ : ∃ outer host₁,
      SecureChannel.encryptCommand Aes128.sample Codes.sample
        { SecureChannel.sample with securityLevel := .Authenticated, counter := 1 }
        (⟨.Echo, [72, 101, 108, 108, 111, 44, 32, 119, 111, 114, 108, 100, 33], .Success .Echo,
          [72, 101, 108, 108, 111, 44, 32, 119, 111, 114, 108, 100, 33], false, false⟩ :
          Exchange SampleCommand).command = .ok outer host₁ ∧
      host₁.securityLevel = .Authenticated ∧ host₁.counter = 1 :=
    ⟨_, _, SecureChannel.encryptCommand_ok Aes128.sample Codes.sample hl (by decide)
      (by rw [length_encryptPad]; decide), rfl, rfl⟩
  have hdec := SecureChannel.decryptCommand_of_encryptCommand Codes.sample Aes128.sample hl
    hv.command_wellFormed henc
  have hrep := SecureChannel.responseWithMac_ok Aes128.sample Codes.sample hl₁
    (by rw [hc₁]; decide) (.Success Codes.sample.SessionMessage)
    (encryptPad Aes128.sample host₁.encKey (computeIcv Aes128.sample host₁.encKey host₁.counter)
      ((ResponseMessage.success SampleCommand.Echo
        [72, 101, 108, 108, 111, 44, 32, 119, 111, 114, 108, 100, 33]).into Codes.sample))
  rw [← SecureChannel.encryptResponse_of_authenticated Aes128.sample Codes.sample hl₁] at hrep
  have hr := LossyReachable.lost (.start hl) henc hdec hrep
  exact ⟨_, _, hr, lostResponses_garble_messages Aes128.sample Codes.sample hr⟩

end YubiHsm
