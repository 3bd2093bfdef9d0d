import YubiHsm.Session.SecureChannel.Lifecycle

/-!
# What the MACs cover and what goes on the wire

The host and the card build their MAC inputs by hand, apart from `Into<Vec<u8>>`. This file
ties them to the serialization:

* `macs_cover_wire_bytes`: the C-MAC of `command_with_mac` is computed over the chaining value
  followed by every byte of the serialized command but its last eight, which are the MAC; and
  for a frame that `ResponseMessage::parse` accepts with code `Success(SessionMessage)`, the
  R-MAC that `verify_response_mac` checks is computed over the chaining value followed by the
  frame without its last eight bytes. When those bytes are the MAC it counts the message below
  `u32::MAX` and panics in `increment_counter` at `u32::MAX`
  (`verifyResponseMac_matching_mac_panics`); otherwise it terminates the channel.
* `cardMac_covers_wire_bytes`: the card side of the same fact. For a frame that
  `CommandMessage::parse` accepts with the channel's session ID, `verify_command_mac` checks
  the C-MAC over the chaining value and the frame without its last eight bytes, chains it when
  those bytes are the MAC, and terminates the channel otherwise.
* `responses_keep_macChainingValue`: the chaining value moves only with command MACs; runs of
  the response-side operations, on either side, keep it (the spec's "responses only consume
  the current value").
* `receivePath_panics_iff`: on an authenticated channel and a frame `parse` accepts,
  `verify_response_mac` and `decrypt_response` panic exactly on a frame of the channel's session
  with no MAC, or with the right MAC at `u32::MAX`;
  `verifyResponseMac_panics_on_frame_without_mac`: `parse` accepts such a frame, a
  `Success(CreateSession)` response with a session ID and no MAC.
* `receivePaths_ok_iff`: `decrypt_response` and `decrypt_command` return `Ok` exactly on a
  frame of the channel's session with the right MAC whose data decrypts to a message `parse`
  accepts.
* `cardReceivePath_panics_iff`: on the card, `verify_command_mac` and `decrypt_command` panic
  exactly on a parsed frame that does not carry the channel's session ID.
* `commandWithMac_frame_le`: `new_with_mac` bounds the data of a command, not the frame, so
  outbound frames have at most `MAX_MSG_SIZE + 12` bytes, and
  `encryptCommand_frame_exceeds_maxMsgSize`: `encrypt_command` of a command that
  `CommandMessage::new` accepted can return a frame of 2060 bytes.
-/

namespace YubiHsm

/-- A byte string that ends in a MAC, cut before the MAC and after it. -/
theorem take_drop_macSize (a : List UInt8) (mac : Mac) :
    (a ++ mac.toList).take ((a ++ mac.toList).length - macSize) = a ∧
      (a ++ mac.toList).drop ((a ++ mac.toList).length - macSize) = mac.toList := by
  have h : (a ++ mac.toList).length - macSize = a.length := by simp
  rw [h]
  exact ⟨List.take_left' rfl, List.drop_left' rfl⟩

section

variable (aes : Aes128) {CommandCode : Type} [DecidableEq CommandCode] (codes : Codes CommandCode)

omit [DecidableEq CommandCode] in
/-- A command with a MAC is its header, session ID and data, followed by the MAC. -/
theorem CommandMessage.into_of_mac {m : CommandMessage CommandCode} {mac : Mac}
    (h : m.mac = some mac) :
    m.into codes = ([codes.command.toU8 m.commandType] ++ writeU16 m.len ++
      sessionIdBytes m.sessionId ++ m.data) ++ mac.toList := by
  simp [CommandMessage.into, h]

omit [DecidableEq CommandCode] in
/-- A response with a MAC is its header, session ID and data, followed by the MAC. -/
theorem ResponseMessage.into_of_mac {r : ResponseMessage CommandCode} {mac : Mac}
    (h : r.mac = some mac) :
    r.into codes = ([codes.response.toU8 r.code] ++ writeU16 r.len ++
      sessionIdBytes r.sessionId ++ r.data) ++ mac.toList := by
  simp [ResponseMessage.into, h]

omit [DecidableEq CommandCode] in
/-- The C-MAC input of `command_with_mac` is the chaining value followed by the command it
returns, serialized, without its MAC; the MAC is the first eight bytes of the new chaining
value. -/
theorem commandWithMac_mac {s s' : SecureChannel} {commandType : CommandCode}
    {commandData : List UInt8} {m : CommandMessage CommandCode}
    (h : s.commandWithMac aes codes commandType commandData = .ok m s') :
    s'.macChainingValue = aes.cmac s.macKey (s.macChainingValue.toList ++
        (m.into codes).take ((m.into codes).length - macSize)) ∧
      (m.into codes).drop ((m.into codes).length - macSize) =
        (Mac.ofTag s'.macChainingValue).toList := by
  rcases SecureChannel.commandWithMac_cases aes codes s commandType commandData with
    ⟨-, e, h'⟩ | ⟨-, -, h'⟩ | ⟨-, -, e, h'⟩ <;> rw [h'] at h <;> cases h
  rw [CommandMessage.into_of_mac codes rfl]
  obtain ⟨htake, hdrop⟩ := take_drop_macSize
    ([codes.command.toU8 commandType] ++ writeU16 (commandData.length + 1 + macSize) ++
      [s.id.toU8] ++ commandData) (Mac.ofTag (s.commandMac aes codes commandType commandData))
  simp only [CommandMessage.len, Option.isSome_some, ↓reduceIte, sessionIdBytes_some]
    at htake hdrop ⊢
  refine ⟨?_, hdrop⟩
  rw [htake, SecureChannel.commandMac, show 1 + commandData.length + macSize =
    commandData.length + 1 + macSize by omega]
  simp only [List.append_assoc]

/-- **MACs cover exactly the wire bytes.** The C-MAC of every command `command_with_mac`
returns covers the chaining value and the serialized command up to its MAC, which is the
first half of the new chaining value. For every frame `parse` accepts with code
`Success(SessionMessage)` and every authenticated channel of the frame's session,
`verify_response_mac` checks the R-MAC over the chaining value and the frame up to its last
eight bytes. When those bytes are the MAC it counts the message below `u32::MAX` and panics
in `increment_counter` at `u32::MAX`; otherwise it terminates the channel with
`VerifyFailed`. -/
theorem macs_cover_wire_bytes :
    (∀ (s s' : SecureChannel) (commandType : CommandCode) (commandData : List UInt8)
        (m : CommandMessage CommandCode),
      s.commandWithMac aes codes commandType commandData = .ok m s' →
        s'.macChainingValue = aes.cmac s.macKey (s.macChainingValue.toList ++
            (m.into codes).take ((m.into codes).length - macSize)) ∧
          (m.into codes).drop ((m.into codes).length - macSize) =
            (Mac.ofTag s'.macChainingValue).toList) ∧
    (∀ (s : SecureChannel) (b : List UInt8) (r : ResponseMessage CommandCode),
      ResponseMessage.parse codes b = .ok r → r.code = .Success codes.SessionMessage →
      s.securityLevel = .Authenticated → r.sessionId = some s.id →
        s.responseMac aes codes r s.id =
            aes.cmac s.rmacKey (s.macChainingValue.toList ++ b.take (b.length - macSize)) ∧
          s.verifyResponseMac aes codes r =
            if b.drop (b.length - macSize) = (Mac.ofTag (s.responseMac aes codes r s.id)).toList
            then
              if s.counter.toNat < 0xFFFFFFFF then .ok () { s with counter := s.counter + 1 }
              else s.panic "session counter overflowed!"
            else s.terminate.fail .VerifyFailed "R-MAC mismatch!") := by
  refine ⟨fun _ _ _ _ _ h => commandWithMac_mac aes codes h, fun s b r hb hc hl hs => ?_⟩
  obtain ⟨hw, rfl⟩ := ResponseMessage.into_of_parse codes hb
  obtain ⟨mac, hmac⟩ := Option.isSome_iff_exists.mp
    (hw.mac_isSome.trans (by simp [hc, hasRmac]))
  rw [ResponseMessage.into_of_mac codes hmac]
  obtain ⟨htake, hdrop⟩ := take_drop_macSize
    ([codes.response.toU8 r.code] ++ writeU16 r.len ++ sessionIdBytes r.sessionId ++ r.data) mac
  rw [htake, hdrop]
  refine ⟨by simp [SecureChannel.responseMac, hs], ?_⟩
  rw [SecureChannel.verifyResponseMac_of_authenticated aes codes hl,
    SecureChannel.incrementCounter_eq]
  simp only [hs, hmac, ne_eq, not_true_eq_false, ↓reduceIte,
    Mathlib.Vector.toList_injective.eq_iff, ← Mac.verify_iff]
  cases mac.verify (s.responseMac aes codes r s.id) <;> rfl

/-- A frame whose last eight bytes are its R-MAC: on the authenticated sample channel with its
counter at `u32::MAX`, `verify_response_mac` panics in `increment_counter` instead of returning
`Ok`. -/
theorem verifyResponseMac_matching_mac_panics :
    ResponseMessage.parse Codes.sample [0x85, 0, 9, 0, 2, 2, 2, 2, 2, 2, 2, 2] =
        .ok ⟨.Success .SessionMessage, some ⟨0, by decide⟩, [],
          some (Mac.ofTag AuthKey.sample.macKey)⟩ ∧
      ([2, 2, 2, 2, 2, 2, 2, 2] : List UInt8) = (Mac.ofTag (Aes128.sample.cmac
        SecureChannel.sample.rmacKey (SecureChannel.sample.macChainingValue.toList ++
          [0x85, 0, 9, 0]))).toList ∧
      SecureChannel.verifyResponseMac Aes128.sample Codes.sample
          { SecureChannel.sample with securityLevel := .Authenticated, counter := 0xFFFFFFFF }
          ⟨.Success .SessionMessage, some ⟨0, by decide⟩, [],
            some (Mac.ofTag AuthKey.sample.macKey)⟩ =
        .error (.panic "session counter overflowed!")
          { SecureChannel.sample with securityLevel := .Authenticated, counter := 0xFFFFFFFF } :=
  ⟨rfl, rfl, rfl⟩

/-- **The card's C-MAC check covers exactly the wire bytes.** For every frame that
`CommandMessage::parse` accepts with the channel's session ID, the C-MAC that
`verify_command_mac` checks is computed over the chaining value and the frame up to its last
eight bytes; the card chains it when those bytes are its MAC, and terminates the channel with
`VerifyFailed` otherwise. -/
theorem cardMac_covers_wire_bytes {s : SecureChannel} {b : List UInt8}
    {m : CommandMessage CommandCode} (hb : CommandMessage.parse codes b = .ok m)
    (hs : m.sessionId = some s.id) :
    s.verifiedCommandMac aes codes m s.id =
        aes.cmac s.macKey (s.macChainingValue.toList ++ b.take (b.length - macSize)) ∧
      s.verifyCommandMac aes codes m =
        if b.drop (b.length - macSize) =
            (Mac.ofTag (s.verifiedCommandMac aes codes m s.id)).toList then
          .ok () { s with macChainingValue := s.verifiedCommandMac aes codes m s.id }
        else s.terminate.fail .VerifyFailed "C-MAC mismatch!" := by
  obtain ⟨hw, rfl⟩ := CommandMessage.into_of_parse codes hb
  obtain ⟨mac, hmac⟩ := Option.isSome_iff_exists.mp
    (hw.mac_isSome.trans (hw.sessionId_isSome.symm.trans (by simp [hs])))
  rw [CommandMessage.into_of_mac codes hmac]
  obtain ⟨htake, hdrop⟩ := take_drop_macSize
    ([codes.command.toU8 m.commandType] ++ writeU16 m.len ++ sessionIdBytes m.sessionId ++ m.data)
    mac
  rw [htake, hdrop]
  refine ⟨by simp [SecureChannel.verifiedCommandMac, hs], ?_⟩
  simp only [SecureChannel.verifyCommandMac, hs, ne_eq, not_true_eq_false, ↓reduceIte, hmac,
    Mathlib.Vector.toList_injective.eq_iff, ← Mac.verify_iff]
  cases mac.verify (s.verifiedCommandMac aes codes m s.id) <;> rfl

/-- A session message of the sample channel with an empty body and a zero MAC: its C-MAC is
computed over the chaining value and the four header bytes. -/
theorem cardMac_covers_wire_bytes_sessionMessage :
    CommandMessage.parse Codes.sample [0x05, 0, 9, 0, 0, 0, 0, 0, 0, 0, 0, 0] =
        .ok ⟨.SessionMessage, some ⟨0, by decide⟩, [], some (Bytes.zero 8)⟩ ∧
      (some ⟨0, by decide⟩ : Option SessionId) = some SecureChannel.sample.id ∧
      SecureChannel.sample.verifiedCommandMac Aes128.sample Codes.sample
          ⟨.SessionMessage, some ⟨0, by decide⟩, [], some (Bytes.zero 8)⟩
          SecureChannel.sample.id =
        Aes128.sample.cmac SecureChannel.sample.macKey
          (SecureChannel.sample.macChainingValue.toList ++ [0x05, 0, 9, 0]) ∧
      SecureChannel.sample.verifyCommandMac Aes128.sample Codes.sample
          ⟨.SessionMessage, some ⟨0, by decide⟩, [], some (Bytes.zero 8)⟩ =
        if List.replicate 8 0 = (Mac.ofTag (SecureChannel.sample.verifiedCommandMac
            Aes128.sample Codes.sample ⟨.SessionMessage, some ⟨0, by decide⟩, [],
              some (Bytes.zero 8)⟩ SecureChannel.sample.id)).toList then
          .ok () { SecureChannel.sample with
            macChainingValue := SecureChannel.sample.verifiedCommandMac Aes128.sample Codes.sample
              ⟨.SessionMessage, some ⟨0, by decide⟩, [], some (Bytes.zero 8)⟩
              SecureChannel.sample.id }
        else SecureChannel.sample.terminate.fail .VerifyFailed "C-MAC mismatch!" :=
  have hb : CommandMessage.parse Codes.sample [0x05, 0, 9, 0, 0, 0, 0, 0, 0, 0, 0, 0] =
      .ok ⟨.SessionMessage, some ⟨0, by decide⟩, [], some (Bytes.zero 8)⟩ := rfl
  have hs : (some ⟨0, by decide⟩ : Option SessionId) = some SecureChannel.sample.id := rfl
  ⟨hb, hs, cardMac_covers_wire_bytes Aes128.sample Codes.sample hb hs⟩

/-! ## Only command MACs advance the chaining value -/

theorem SecureChannel.incrementCounter_macChainingValue (s : SecureChannel) :
    (Outcome.state s.incrementCounter).macChainingValue = s.macChainingValue := by
  rw [incrementCounter_eq]; split_ifs <;> rfl

omit [DecidableEq CommandCode] in
theorem SecureChannel.finishAuthenticateSession_macChainingValue (s : SecureChannel)
    (r : ResponseMessage CommandCode) :
    (Outcome.state (s.finishAuthenticateSession r)).macChainingValue = s.macChainingValue := by
  unfold finishAuthenticateSession; split_ifs <;> rfl

omit [DecidableEq CommandCode] in
theorem SecureChannel.verifyResponseMac_macChainingValue (s : SecureChannel)
    (r : ResponseMessage CommandCode) :
    (Outcome.state (s.verifyResponseMac aes codes r)).macChainingValue = s.macChainingValue := by
  unfold verifyResponseMac
  repeat' split
  all_goals first | rfl | exact incrementCounter_macChainingValue s

theorem SecureChannel.decryptResponse_macChainingValue (s : SecureChannel)
    (r : ResponseMessage CommandCode) :
    (Outcome.state (s.decryptResponse aes codes r)).macChainingValue = s.macChainingValue := by
  unfold decryptResponse
  split_ifs
  · rfl
  have hv := verifyResponseMac_macChainingValue aes codes s r
  revert hv
  cases s.verifyResponseMac aes codes r with
  | error e s' => exact fun hv => hv
  | ok u s' =>
    intro hv
    dsimp only
    split
    · exact hv
    · rw [Outcome.state_ofExcept]; exact hv

omit [DecidableEq CommandCode] in
theorem SecureChannel.responseWithMac_macChainingValue (s : SecureChannel)
    (code : ResponseCode CommandCode) (body : List UInt8) :
    (Outcome.state (s.responseWithMac aes codes code body)).macChainingValue =
      s.macChainingValue := by
  unfold responseWithMac
  split_ifs
  · rfl
  · have hv := incrementCounter_macChainingValue s
    revert hv
    cases s.incrementCounter <;> exact fun hv => hv

omit [DecidableEq CommandCode] in
theorem SecureChannel.encryptResponse_macChainingValue (s : SecureChannel)
    (r : ResponseMessage CommandCode) :
    (Outcome.state (s.encryptResponse aes codes r)).macChainingValue = s.macChainingValue := by
  unfold encryptResponse
  split_ifs
  · rfl
  · exact responseWithMac_macChainingValue aes codes s _ _

/-- Does the operation compute a C-MAC? -/
def Operation.macsCommand : Operation CommandCode → Bool
  | .host .authenticateSession | .host (.commandWithMac _ _) | .host (.encryptCommand _)
  | .verifyAuthenticateSession _ | .decryptCommand _ | .verifyCommandMac _ => true
  | _ => false

/-- The step: an operation that computes no C-MAC keeps the chaining value, whatever it ends
in. -/
theorem Operation.call_macChainingValue (s : SecureChannel) {op : Operation CommandCode}
    (h : op.macsCommand = false) :
    (Outcome.state (op.call aes codes s)).macChainingValue = s.macChainingValue := by
  cases op with
  | host c =>
    cases c with
    | finishAuthenticateSession r => exact s.finishAuthenticateSession_macChainingValue r
    | verifyResponseMac r => exact s.verifyResponseMac_macChainingValue aes codes r
    | decryptResponse r =>
      simpa only [Operation.call, HostCall.call, Outcome.state_discard] using
        s.decryptResponse_macChainingValue aes codes r
    | _ => cases h
  | encryptResponse r =>
    simpa only [Operation.call, Outcome.state_discard] using
      s.encryptResponse_macChainingValue aes codes r
  | responseWithMac code body =>
    simpa only [Operation.call, Outcome.state_discard] using
      s.responseWithMac_macChainingValue aes codes code body
  | _ => cases h

/-- **Only command MACs advance the chaining value.** The chaining value changes only in the
operations that compute a C-MAC; in every run of the others (`finish_authenticate_session`,
`verify_response_mac` and `decrypt_response` on the host, `encrypt_response` and
`response_with_mac` on the card), every channel the run passes through keeps the chaining value
of the first. So the R-MAC of a response is computed over the C-MAC of the command before it. -/
theorem responses_keep_macChainingValue (s : SecureChannel) (ops : List (Operation CommandCode))
    (h : ∀ op ∈ ops, op.macsCommand = false) :
    ∀ s' ∈ Operation.states aes codes s ops, s'.macChainingValue = s.macChainingValue := by
  induction ops generalizing s with
  | nil => simp [Operation.states]
  | cons op ops ih =>
    have hstep := Operation.call_macChainingValue aes codes s (h op (List.mem_cons_self _ _))
    simp only [Operation.states]
    split_ifs
    · simp
    · intro s' hs'
      rcases List.mem_cons.mp hs' with rfl | hs'
      · rfl
      · exact (ih _ (fun op hop => h op (List.mem_cons_of_mem _ hop)) s' hs').trans hstep

/-- An R-MAC check that fails and terminates the channel, then an `encrypt_response` that
panics on the terminated channel. -/
theorem responses_keep_macChainingValue_sample :
    (∀ op ∈ ([.host (.verifyResponseMac ⟨.Success .SessionMessage, some ⟨0, by decide⟩, [],
          some (Bytes.zero 8)⟩),
        .encryptResponse ⟨.Success .Echo, none, [1], none⟩] : List (Operation SampleCommand)),
        op.macsCommand = false) ∧
      ∀ s' ∈ Operation.states Aes128.sample Codes.sample
          { SecureChannel.sample with securityLevel := .Authenticated }
          [.host (.verifyResponseMac ⟨.Success .SessionMessage, some ⟨0, by decide⟩, [],
              some (Bytes.zero 8)⟩),
            .encryptResponse ⟨.Success .Echo, none, [1], none⟩],
        s'.macChainingValue =
          ({ SecureChannel.sample with securityLevel := .Authenticated } :
            SecureChannel).macChainingValue :=
  have h : ∀ op ∈ ([.host (.verifyResponseMac ⟨.Success .SessionMessage, some ⟨0, by decide⟩,
        [], some (Bytes.zero 8)⟩),
      .encryptResponse ⟨.Success .Echo, none, [1], none⟩] : List (Operation SampleCommand)),
      op.macsCommand = false := by decide
  ⟨h, responses_keep_macChainingValue Aes128.sample Codes.sample _ _ h⟩
/-! ## Where the receive paths panic -/

omit [DecidableEq CommandCode] in
/-- `verify_response_mac` on an authenticated channel panics exactly when the response carries
the channel's session ID and no MAC, or the right MAC at counter `u32::MAX`. -/
theorem verifyResponseMac_panicked_iff {s : SecureChannel} (hl : s.securityLevel = .Authenticated)
    (r : ResponseMessage CommandCode) :
    Outcome.panicked (s.verifyResponseMac aes codes r) = true ↔
      r.sessionId = some s.id ∧
        (r.mac = none ∨
          r.mac = some (Mac.ofTag (s.responseMac aes codes r s.id)) ∧
            s.counter.toNat = 0xFFFFFFFF) := by
  rw [SecureChannel.verifyResponseMac_of_authenticated aes codes hl]
  rcases hsid : r.sessionId with _ | sid
  · simp [SecureChannel.fail, Outcome.panicked]
  by_cases hid : s.id = sid
  · subst hid
    rcases hmac : r.mac with _ | mac
    · simp [SecureChannel.panic, Outcome.panicked]
    · have hc : s.counter.toNat < 2 ^ 32 := s.counter.toNat_lt_size
      simp only [ne_eq, not_true_eq_false, ↓reduceIte, Option.some.injEq, true_and,
        reduceCtorEq, false_or, ← Mac.verify_iff]
      cases mac.verify (s.responseMac aes codes r s.id)
      · simp [SecureChannel.fail, Outcome.panicked]
      · simp only [Bool.not_true, Bool.false_eq_true, ↓reduceIte, true_and,
          SecureChannel.incrementCounter_eq]
        split_ifs <;> simp [Outcome.panicked] <;> omega
  · simp [hid, SecureChannel.fail, Outcome.panicked, Ne.symm hid]

/-- `decrypt_response` on an authenticated channel panics exactly when its
`verify_response_mac` does: decrypting and parsing the payload fail only with `Err`. -/
theorem decryptResponse_panicked_eq {s : SecureChannel} (hl : s.securityLevel = .Authenticated)
    (r : ResponseMessage CommandCode) :
    Outcome.panicked (s.decryptResponse aes codes r) =
      Outcome.panicked (s.verifyResponseMac aes codes r) := by
  rw [SecureChannel.decryptResponse_of_authenticated aes codes hl]
  split
  · next e _ h => rw [h]; rcases e <;> rfl
  · next h =>
    rw [h]
    split
    · simp [SecureChannel.fail, Outcome.panicked]
    · next message _ =>
      rcases (ResponseMessage.parse_failsWith codes message).eq_ok_or_err with
        ⟨_, hp⟩ | ⟨_, hp⟩ <;>
        simp [hp, Outcome.panicked, Outcome.ofExcept, Except.map]

/-- **Where the host's receive path panics.** On an authenticated channel, for every frame
`parse` accepts, `verify_response_mac` panics exactly when the frame carries the channel's
session ID and either its code has no R-MAC (`expect("missing R-MAC tag!")`) or its R-MAC
matches with the counter at `u32::MAX` (the overflow check of `increment_counter`); and
`decrypt_response` panics exactly when `verify_response_mac` does. -/
theorem receivePath_panics_iff {s : SecureChannel} (hl : s.securityLevel = .Authenticated)
    {b : List UInt8} {r : ResponseMessage CommandCode}
    (hb : ResponseMessage.parse codes b = .ok r) :
    (Outcome.panicked (s.verifyResponseMac aes codes r) = true ↔
      r.sessionId = some s.id ∧
        (hasRmac codes r.code = false ∨
          r.mac = some (Mac.ofTag (s.responseMac aes codes r s.id)) ∧
            s.counter.toNat = 0xFFFFFFFF)) ∧
    Outcome.panicked (s.decryptResponse aes codes r) =
      Outcome.panicked (s.verifyResponseMac aes codes r) := by
  have hmac : r.mac = none ↔ hasRmac codes r.code = false := by
    rw [← Option.not_isSome_iff_eq_none, (ResponseMessage.into_of_parse codes hb).1.mac_isSome]
    simp
  rw [verifyResponseMac_panicked_iff aes codes hl, hmac]
  exact ⟨Iff.rfl, decryptResponse_panicked_eq aes codes hl r⟩

/-- The frame without a MAC of `verifyResponseMac_panics_on_frame_without_mac`. -/
theorem receivePath_panics_iff_createSession :
    ({ SecureChannel.sample with securityLevel := .Authenticated, counter := 1 } :
        SecureChannel).securityLevel = .Authenticated ∧
      ResponseMessage.parse Codes.sample [0x83, 0, 1, 0] =
        .ok ⟨.Success .CreateSession, some ⟨0, by decide⟩, [], none⟩ ∧
      (Outcome.panicked (SecureChannel.verifyResponseMac Aes128.sample Codes.sample
          { SecureChannel.sample with securityLevel := .Authenticated, counter := 1 }
          ⟨.Success .CreateSession, some ⟨0, by decide⟩, [], none⟩) = true ↔
        some (⟨0, by decide⟩ : SessionId) = some SecureChannel.sample.id ∧
          (hasRmac Codes.sample (.Success .CreateSession) = false ∨
            (none : Option Mac) = some (Mac.ofTag (SecureChannel.responseMac Aes128.sample
              Codes.sample
              { SecureChannel.sample with securityLevel := .Authenticated, counter := 1 }
              ⟨.Success .CreateSession, some ⟨0, by decide⟩, [], none⟩
              SecureChannel.sample.id)) ∧
              (1 : UInt32).toNat = 0xFFFFFFFF)) ∧
      Outcome.panicked (SecureChannel.decryptResponse Aes128.sample Codes.sample
          { SecureChannel.sample with securityLevel := .Authenticated, counter := 1 }
          ⟨.Success .CreateSession, some ⟨0, by decide⟩, [], none⟩) =
        Outcome.panicked (SecureChannel.verifyResponseMac Aes128.sample Codes.sample
          { SecureChannel.sample with securityLevel := .Authenticated, counter := 1 }
          ⟨.Success .CreateSession, some ⟨0, by decide⟩, [], none⟩) :=
  have hl : ({ SecureChannel.sample with securityLevel := .Authenticated, counter := 1 } :
      SecureChannel).securityLevel = .Authenticated := rfl
  have hb : ResponseMessage.parse Codes.sample [0x83, 0, 1, 0] =
      .ok ⟨.Success .CreateSession, some ⟨0, by decide⟩, [], none⟩ := rfl
  ⟨hl, hb, receivePath_panics_iff Aes128.sample Codes.sample hl hb⟩

/-- **A frame without a MAC makes the host panic.** `parse` accepts the four bytes of a
`Success(CreateSession)` response for session 0, which carries a session ID and no R-MAC;
on the authenticated sample channel of session 0, `verify_response_mac` and
`decrypt_response` reach `expect("missing R-MAC tag!")`. -/
theorem verifyResponseMac_panics_on_frame_without_mac :
    ResponseMessage.parse Codes.sample [0x83, 0, 1, 0] =
        .ok ⟨.Success .CreateSession, some ⟨0, by decide⟩, [], none⟩ ∧
      SecureChannel.verifyResponseMac Aes128.sample Codes.sample
          { SecureChannel.sample with securityLevel := .Authenticated, counter := 1 }
          ⟨.Success .CreateSession, some ⟨0, by decide⟩, [], none⟩ =
        .error (.panic "missing R-MAC tag!")
          { SecureChannel.sample with securityLevel := .Authenticated, counter := 1 } ∧
      SecureChannel.decryptResponse Aes128.sample Codes.sample
          { SecureChannel.sample with securityLevel := .Authenticated, counter := 1 }
          ⟨.Success .CreateSession, some ⟨0, by decide⟩, [], none⟩ =
        .error (.panic "missing R-MAC tag!")
          { SecureChannel.sample with securityLevel := .Authenticated, counter := 1 } :=
  ⟨rfl, rfl, rfl⟩

omit [DecidableEq CommandCode] in
/-- `verify_command_mac` panics exactly when the command does not carry the channel's session
ID, or carries it with no MAC. -/
theorem verifyCommandMac_panicked_iff (s : SecureChannel) (m : CommandMessage CommandCode) :
    Outcome.panicked (s.verifyCommandMac aes codes m) = true ↔
      m.sessionId ≠ some s.id ∨ m.mac = none := by
  unfold SecureChannel.verifyCommandMac
  rcases hsid : m.sessionId with _ | sid
  · simp [SecureChannel.panic, Outcome.panicked]
  by_cases hid : sid = s.id
  · subst hid
    rcases hmac : m.mac with _ | mac
    · simp [SecureChannel.panic, Outcome.panicked]
    · simp only [ne_eq, not_true_eq_false, ↓reduceIte, SecureChannel.fail, reduceCtorEq,
        or_false]
      split <;> simp [Outcome.panicked]
  · simp [hid, SecureChannel.panic, Outcome.panicked]

/-- `decrypt_command` on an authenticated channel panics exactly when its `verify_command_mac`
does: decrypting and parsing the payload fail only with `Err`. -/
theorem decryptCommand_panicked_eq {s : SecureChannel} (hl : s.securityLevel = .Authenticated)
    (m : CommandMessage CommandCode) :
    Outcome.panicked (s.decryptCommand aes codes m) =
      Outcome.panicked (s.verifyCommandMac aes codes m) := by
  rw [SecureChannel.decryptCommand_of_authenticated aes codes hl]
  split
  · next e _ h => rw [h]; rcases e <;> rfl
  · next h =>
    rw [h]
    split
    · simp [SecureChannel.fail, Outcome.panicked]
    · next message _ =>
      rcases (CommandMessage.parse_failsWith codes message).eq_ok_or_err with
        ⟨_, hp⟩ | ⟨_, hp⟩ <;>
        simp [hp, Outcome.panicked, Outcome.ofExcept, Except.map]

/-- **Where the card's receive path panics.** On an authenticated channel, for every frame
`CommandMessage::parse` accepts, `verify_command_mac` panics exactly when the frame does not
carry the channel's session ID (`unwrap` on a frame with none, `assert_eq!` on another
session's); the frame then needs no MAC, since `parse` reads one exactly when it reads a session
ID. `decrypt_command` panics exactly when `verify_command_mac` does. -/
theorem cardReceivePath_panics_iff {s : SecureChannel} (hl : s.securityLevel = .Authenticated)
    {b : List UInt8} {m : CommandMessage CommandCode}
    (hb : CommandMessage.parse codes b = .ok m) :
    (Outcome.panicked (s.verifyCommandMac aes codes m) = true ↔ m.sessionId ≠ some s.id) ∧
    Outcome.panicked (s.decryptCommand aes codes m) =
      Outcome.panicked (s.verifyCommandMac aes codes m) := by
  have hw := (CommandMessage.into_of_parse codes hb).1
  have hmac : m.sessionId = some s.id → m.mac ≠ none := fun hs => by
    rw [← Option.isSome_iff_ne_none, hw.mac_isSome, ← hw.sessionId_isSome, hs]; rfl
  rw [verifyCommandMac_panicked_iff aes codes]
  exact ⟨⟨fun h => h.elim id fun hn hs => hmac hs hn, .inl⟩,
    decryptCommand_panicked_eq aes codes hl m⟩

/-- An `Echo` frame, which has no session ID, makes the card's receive path panic. -/
theorem cardReceivePath_panics_iff_echo :
    ({ SecureChannel.sample with securityLevel := .Authenticated, counter := 1 } :
        SecureChannel).securityLevel = .Authenticated ∧
      CommandMessage.parse Codes.sample [0x01, 0, 1, 0x2A] = .ok ⟨.Echo, none, [0x2A], none⟩ ∧
      (Outcome.panicked (SecureChannel.verifyCommandMac Aes128.sample Codes.sample
          { SecureChannel.sample with securityLevel := .Authenticated, counter := 1 }
          ⟨.Echo, none, [0x2A], none⟩) = true ↔
        (none : Option SessionId) ≠ some SecureChannel.sample.id) ∧
      Outcome.panicked (SecureChannel.decryptCommand Aes128.sample Codes.sample
          { SecureChannel.sample with securityLevel := .Authenticated, counter := 1 }
          ⟨.Echo, none, [0x2A], none⟩) =
        Outcome.panicked (SecureChannel.verifyCommandMac Aes128.sample Codes.sample
          { SecureChannel.sample with securityLevel := .Authenticated, counter := 1 }
          ⟨.Echo, none, [0x2A], none⟩) :=
  have hl : ({ SecureChannel.sample with securityLevel := .Authenticated, counter := 1 } :
      SecureChannel).securityLevel = .Authenticated := rfl
  have hb : CommandMessage.parse Codes.sample [0x01, 0, 1, 0x2A] =
      .ok ⟨.Echo, none, [0x2A], none⟩ := rfl
  ⟨hl, hb, cardReceivePath_panics_iff Aes128.sample Codes.sample hl hb⟩

/-! ## What the receive paths accept -/

/-- `decrypt_response` returns `Ok` exactly when `verify_response_mac` does and the data
decrypts, under S-ENC and the ICV of the counter before the call, to a response that `parse`
accepts; the `Ok` is that response with the outer session ID. -/
theorem SecureChannel.decryptResponse_eq_ok_iff {s s' : SecureChannel}
    {r inner : ResponseMessage CommandCode} :
    s.decryptResponse aes codes r = .ok inner s' ↔
      (s.securityLevel = .Authenticated ∧ r.sessionId = some s.id ∧
        r.mac = some (Mac.ofTag (s.responseMac aes codes r s.id)) ∧
        s.counter.toNat < 0xFFFFFFFF) ∧
      (∃ bytes i, decryptPad aes s.encKey (computeIcv aes s.encKey s.counter) r.data = some bytes ∧
        ResponseMessage.parse codes bytes = .ok i ∧ inner = { i with sessionId := r.sessionId }) ∧
      s' = { s with counter := s.counter + 1 } := by
  constructor
  · intro h
    by_cases hl : s.securityLevel = .Authenticated
    swap
    · simp [decryptResponse, hl, panic] at h
    rw [decryptResponse_of_authenticated aes codes hl] at h
    cases hv : s.verifyResponseMac aes codes r with
    | error e s1 => rw [hv] at h; cases h
    | ok u s1 =>
      rw [hv] at h
      obtain ⟨-, hs, hm, hc, rfl⟩ := (verifyResponseMac_eq_ok_iff aes codes).mp hv
      dsimp only at h
      split at h
      · cases h
      next bytes hbytes =>
        cases hp : ResponseMessage.parse codes bytes with
        | error e => simp [hp, Outcome.ofExcept, Except.map] at h
        | ok i =>
          simp only [hp, Outcome.ofExcept, Except.map] at h
          cases h
          exact ⟨⟨hl, hs, hm, hc⟩, ⟨bytes, i, hbytes, hp, rfl⟩, rfl⟩
  · rintro ⟨⟨hl, hs, hm, hc⟩, ⟨bytes, i, hbytes, hp, rfl⟩, rfl⟩
    rw [decryptResponse_of_authenticated aes codes hl, verifyResponseMac_of_mac aes codes hl hs hm,
      incrementCounter_eq, if_pos hc]
    simp [hbytes, hp, Outcome.ofExcept, Except.map]

/-- `decrypt_command` returns `Ok` exactly when `verify_command_mac` does and the data
decrypts, under S-ENC and the ICV of the counter, to a command that `parse` accepts; the `Ok`
is that command with the outer session ID. -/
theorem SecureChannel.decryptCommand_eq_ok_iff {s s' : SecureChannel}
    {m inner : CommandMessage CommandCode} :
    s.decryptCommand aes codes m = .ok inner s' ↔
      (s.securityLevel = .Authenticated ∧ m.sessionId = some s.id ∧
        m.mac = some (Mac.ofTag (s.verifiedCommandMac aes codes m s.id))) ∧
      (∃ bytes i, decryptPad aes s.encKey (computeIcv aes s.encKey s.counter) m.data = some bytes ∧
        CommandMessage.parse codes bytes = .ok i ∧ inner = { i with sessionId := m.sessionId }) ∧
      s' = { s with macChainingValue := s.verifiedCommandMac aes codes m s.id } := by
  constructor
  · intro h
    by_cases hl : s.securityLevel = .Authenticated
    swap
    · simp [decryptCommand, hl, panic] at h
    rw [decryptCommand_of_authenticated aes codes hl] at h
    cases hv : s.verifyCommandMac aes codes m with
    | error e s1 => rw [hv] at h; cases h
    | ok u s1 =>
      rw [hv] at h
      obtain ⟨hs, hm, rfl⟩ := (verifyCommandMac_eq_ok_iff aes codes).mp hv
      dsimp only at h
      split at h
      · cases h
      next bytes hbytes =>
        cases hp : CommandMessage.parse codes bytes with
        | error e => simp [hp, Outcome.ofExcept, Except.map] at h
        | ok i =>
          simp only [hp, Outcome.ofExcept, Except.map] at h
          cases h
          exact ⟨⟨hl, hs, hm⟩, ⟨bytes, i, hbytes, hp, rfl⟩, rfl⟩
  · rintro ⟨⟨hl, hs, hm⟩, ⟨bytes, i, hbytes, hp, rfl⟩, rfl⟩
    rw [decryptCommand_of_authenticated aes codes hl, verifyCommandMac_of_mac aes codes hs hm]
    simp [hbytes, hp, Outcome.ofExcept, Except.map]

/-- **The receive paths accept exactly authenticated ciphertexts.** On the host,
`decrypt_response` returns `Ok` exactly on an authenticated channel below `u32::MAX` and a
response of its session with the right R-MAC whose data decrypts, under S-ENC and the ICV of the
counter, to a response `parse` accepts; the channel then only counts the message. On the card,
`decrypt_command` returns `Ok` exactly on an authenticated channel and a command of its session
with the right C-MAC whose data decrypts to a command `parse` accepts; the channel then only
chains the C-MAC. Either way the `Ok` is the decrypted message with the outer session ID. -/
theorem receivePaths_ok_iff :
    (∀ (s s' : SecureChannel) (r inner : ResponseMessage CommandCode),
      s.decryptResponse aes codes r = .ok inner s' ↔
        (s.securityLevel = .Authenticated ∧ r.sessionId = some s.id ∧
          r.mac = some (Mac.ofTag (s.responseMac aes codes r s.id)) ∧
          s.counter.toNat < 0xFFFFFFFF) ∧
        (∃ bytes i,
          decryptPad aes s.encKey (computeIcv aes s.encKey s.counter) r.data = some bytes ∧
          ResponseMessage.parse codes bytes = .ok i ∧ inner = { i with sessionId := r.sessionId }) ∧
        s' = { s with counter := s.counter + 1 }) ∧
    (∀ (s s' : SecureChannel) (m inner : CommandMessage CommandCode),
      s.decryptCommand aes codes m = .ok inner s' ↔
        (s.securityLevel = .Authenticated ∧ m.sessionId = some s.id ∧
          m.mac = some (Mac.ofTag (s.verifiedCommandMac aes codes m s.id))) ∧
        (∃ bytes i,
          decryptPad aes s.encKey (computeIcv aes s.encKey s.counter) m.data = some bytes ∧
          CommandMessage.parse codes bytes = .ok i ∧ inner = { i with sessionId := m.sessionId }) ∧
        s' = { s with macChainingValue := s.verifiedCommandMac aes codes m s.id }) :=
  ⟨fun _ _ _ _ => SecureChannel.decryptResponse_eq_ok_iff aes codes,
    fun _ _ _ _ => SecureChannel.decryptCommand_eq_ok_iff aes codes⟩

/-! ## Frame lengths -/

omit [DecidableEq CommandCode] in
/-- Every frame `encrypt_command` returns is the padded command, encrypted, between a header
with the session ID and a MAC: twelve bytes more than the padded command. -/
theorem encryptCommand_frame_length {s s' : SecureChannel} {command m : CommandMessage CommandCode}
    (h : s.encryptCommand aes codes command = .ok m s') :
    (m.into codes).length = 12 + 16 * ((command.into codes).length / 16 + 1) := by
  rcases s.encryptCommand_cases aes codes command with ⟨msg, hp⟩ | he
  · rw [hp, SecureChannel.panic] at h; cases h
  rw [he] at h
  rcases SecureChannel.commandWithMac_cases aes codes s codes.SessionMessage
      (encryptPad aes s.encKey (computeIcv aes s.encKey s.counter) (command.into codes)) with
    ⟨-, e, h'⟩ | ⟨-, -, h'⟩ | ⟨-, -, e, h'⟩ <;> rw [h'] at h <;> cases h
  simp only [CommandMessage.length_into, CommandMessage.len, length_encryptPad,
    Option.isSome_some, ↓reduceIte, macSize]
  omega

omit [DecidableEq CommandCode] in
/-- **Every outbound frame fits `MAX_MSG_SIZE + 12` bytes.** `new_with_mac` bounds the data of
a command by `MAX_MSG_SIZE`, not the frame: a frame that `command_with_mac` returns, and so
every frame of `authenticate_session` and `encrypt_command`, has at most `MAX_MSG_SIZE` bytes of
data between its header and session ID (four bytes) and its MAC (eight). -/
theorem commandWithMac_frame_le {s s' : SecureChannel} {commandType : CommandCode}
    {commandData : List UInt8} {m : CommandMessage CommandCode}
    (h : s.commandWithMac aes codes commandType commandData = .ok m s') :
    (m.into codes).length ≤ maxMsgSize + 12 := by
  rcases SecureChannel.commandWithMac_cases aes codes s commandType commandData with
    ⟨-, e, h'⟩ | ⟨-, hd, h'⟩ | ⟨-, -, e, h'⟩ <;> rw [h'] at h <;> cases h
  simp only [CommandMessage.length_into, CommandMessage.len, Option.isSome_some, ↓reduceIte,
    macSize]
  omega

/-- A one-byte `Echo` command on the sample channel. -/
theorem commandWithMac_frame_le_echo :
    SecureChannel.sample.commandWithMac Aes128.sample Codes.sample .Echo [1] =
        .ok ⟨.Echo, some SecureChannel.sample.id, [1],
            some (Mac.ofTag
              (SecureChannel.sample.commandMac Aes128.sample Codes.sample .Echo [1]))⟩
          { SecureChannel.sample with
            macChainingValue :=
              SecureChannel.sample.commandMac Aes128.sample Codes.sample .Echo [1] } ∧
      (CommandMessage.into Codes.sample ⟨.Echo, some SecureChannel.sample.id, [1],
          some (Mac.ofTag (SecureChannel.sample.commandMac Aes128.sample Codes.sample .Echo
            [1]))⟩).length ≤ maxMsgSize + 12 :=
  have h : SecureChannel.sample.commandWithMac Aes128.sample Codes.sample .Echo [1] =
      .ok ⟨.Echo, some SecureChannel.sample.id, [1],
          some (Mac.ofTag (SecureChannel.sample.commandMac Aes128.sample Codes.sample .Echo [1]))⟩
        { SecureChannel.sample with
          macChainingValue :=
            SecureChannel.sample.commandMac Aes128.sample Codes.sample .Echo [1] } :=
    SecureChannel.commandWithMac_ok Aes128.sample Codes.sample (by decide) (by decide)
  ⟨h, commandWithMac_frame_le Aes128.sample Codes.sample h⟩

end

/-- **A frame longer than `MAX_MSG_SIZE`.** On the authenticated sample channel,
`encrypt_command` of a command with 2044 bytes of data, which `CommandMessage::new` accepts,
returns `Ok` with 2048 bytes of ciphertext, and the frame it serializes to has 2060 bytes. -/
theorem encryptCommand_frame_exceeds_maxMsgSize :
    CommandMessage.new SampleCommand.Echo (List.replicate 2044 0) =
        .ok ⟨.Echo, none, List.replicate 2044 0, none⟩ ∧
      ∃ (s s' : SecureChannel) (m : CommandMessage SampleCommand),
        Reachable Aes128.sample Codes.sample s ∧
        s.encryptCommand Aes128.sample Codes.sample ⟨.Echo, none, List.replicate 2044 0, none⟩ =
          .ok m s' ∧
        (m.into Codes.sample).length = 2060 ∧ maxMsgSize < (m.into Codes.sample).length := by
  have hcommand : (CommandMessage.into Codes.sample
      (⟨.Echo, none, List.replicate 2044 0, none⟩ : CommandMessage SampleCommand)).length =
        2047 := by
    rw [CommandMessage.length_into]
    simp only [CommandMessage.len, List.length_replicate, Option.isSome_none, Bool.false_eq_true,
      ↓reduceIte]
  obtain ⟨m, s', henc⟩ : ∃ m s', SecureChannel.encryptCommand Aes128.sample Codes.sample
      { SecureChannel.sample with securityLevel := .Authenticated, counter := 1 }
      ⟨.Echo, none, List.replicate 2044 0, none⟩ = .ok m s' :=
    ⟨_, _, SecureChannel.encryptCommand_ok Aes128.sample Codes.sample rfl (by decide)
      (by rw [length_encryptPad, hcommand]; decide)⟩
  have hframe : (m.into Codes.sample).length = 2060 := by
    rw [encryptCommand_frame_length Aes128.sample Codes.sample henc, hcommand]
  exact ⟨CommandMessage.new_of_length_le (by rw [List.length_replicate]; decide), _, _, _,
    reachable_sample_authenticated, henc, hframe, by rw [hframe]; decide⟩

end YubiHsm
