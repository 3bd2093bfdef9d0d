import YubiHsm.Session.Message

/-!
# Round trips of the message codec

The parsers of `session/message.rs` accept exactly the serializations of well-formed
messages, and never panic. For responses, `ResponseMessage.parse_eq_ok_iff` says

`parse b = Ok r ↔ r.WellFormed ∧ r.into = b`,

where a well-formed response carries a session ID exactly when `has_session_id` asks for one,
a MAC exactly when `has_rmac` does, and has a length that fits the 16-bit length field;
`ResponseMessage.parse_failsWith` says that `parse` fails only with a `ProtocolError`: the
`unwrap`s of its `checked_add` and `checked_sub` never fire. The same
holds for commands, where the session ID and the MAC are both present exactly for
`AuthSession` and `SessionMessage`. The code tables are lawful (`ByteTag`), which is all the
proofs ask of them. An error frame from which `HsmErrorKind::from_response_message` reads a
kind is four bytes, the last of them the kind's tag (`errorFrame_of_fromResponseMessage`), and
the card's reply for a kind reads back as that kind (`hsmErrorKind_reply_roundtrip`). Both
parsers reject a frame whose length field disagrees with its length, or whose session ID byte
is 16 or more, with a `ProtocolError` (`frames_rejected_on_length_or_sessionId`).
-/

namespace YubiHsm

theorem Except.bind_eq_ok {ε α β : Type} {x : Except ε α} {f : α → Except ε β} {b : β} :
    x >>= f = .ok b ↔ ∃ a, x = .ok a ∧ f a = .ok b := by
  cases x <;> simp [bind, Except.bind]

theorem Except.bind_eq_error {ε α β : Type} {x : Except ε α} {f : α → Except ε β}
    {e : ε} : x >>= f = .error e ↔ x = .error e ∨ ∃ a, x = .ok a ∧ f a = .error e := by
  cases x <;> simp [bind, Except.bind]

@[simp] theorem Except.ok_bind {ε α β : Type} (a : α) (f : α → Except ε β) :
    (Except.ok a : Except ε α) >>= f = f a := rfl

@[simp] theorem Except.error_bind {ε α β : Type} (e : ε) (f : α → Except ε β) :
    (Except.error e : Except ε α) >>= f = .error e := rfl

@[simp] theorem Except.pure_eq {ε α : Type} (a : α) : (pure a : Except ε α) = .ok a := rfl

@[simp] theorem liftErr_ok {α : Type} (a : α) : liftErr (.ok a) = .ok a := rfl

@[simp] theorem liftErr_error {α : Type} (e : SessionError) :
    liftErr (α := α) (.error e) = .error (.err e) := rfl

theorem checkedAddUnwrap_of_lt {a b : Nat} (h : a + b < usizeSize) :
    checkedAddUnwrap a b = .ok (a + b) := if_pos h

theorem checkedSubUnwrap_of_le {a b : Nat} (h : b ≤ a) : checkedSubUnwrap a b = .ok (a - b) :=
  if_pos h

theorem eq_of_checkedAddUnwrap_eq_ok {a b t : Nat} (h : checkedAddUnwrap a b = .ok t) :
    t = a + b := by
  unfold checkedAddUnwrap at h
  split at h <;> simp_all

@[simp] theorem Except.mapError_eq_ok {ε ε' α : Type} {x : Except ε α} {f : ε → ε'} {a : α} :
    x.mapError f = .ok a ↔ x = .ok a := by
  cases x <;> simp [Except.mapError]

/-- An `Except Fault` value that is `Ok` or an `Err` of kind `k`, never a panic. -/
def FailsWith {α : Type} (k : SessionErrorKind) (x : Except Fault α) : Prop :=
  ∀ f, x = .error f → ∃ msg, f = .err (err k msg)

namespace FailsWith

variable {α β : Type} {k : SessionErrorKind}

theorem bind {x : Except Fault α} {f : α → Except Fault β} (hx : FailsWith k x)
    (hf : ∀ a, x = .ok a → FailsWith k (f a)) : FailsWith k (x >>= f) := fun e h => by
  rcases Except.bind_eq_error.mp h with h | ⟨a, ha, h⟩
  · exact hx e h
  · exact hf a ha e h

@[simp] theorem ok (a : α) : FailsWith k (.ok a : Except Fault α) := fun _ h => by cases h

theorem fail (msg : String) : FailsWith k (fail k msg : Except Fault α) := fun _ h => by
  cases h; exact ⟨msg, rfl⟩

theorem mapError (r : Except String α) : FailsWith k (r.mapError (.err ∘ err k)) := fun _ h => by
  cases r <;> cases h; exact ⟨_, rfl⟩

theorem sessionIdNew (b : UInt8) : FailsWith .ProtocolError (liftErr (SessionId.new b)) := by
  unfold SessionId.new
  split
  · exact .ok _
  · exact .fail _

/-- A `FailsWith` value is an `Ok` or an `Err`. -/
theorem eq_ok_or_err {x : Except Fault α} (h : FailsWith k x) :
    (∃ a, x = .ok a) ∨ ∃ e, x = .error (.err e) := by
  rcases x with f | a
  · obtain ⟨msg, rfl⟩ := h f rfl
    exact .inr ⟨_, rfl⟩
  · exact .inl ⟨a, rfl⟩

/-- A `FailsWith` value that is no `Ok` is an `Err` of kind `k`. -/
theorem rejects {x : Except Fault α} (h : FailsWith k x) (hx : ∀ a, x ≠ .ok a) :
    ∃ msg, x = YubiHsm.fail k msg := by
  rcases x with f | a
  · obtain ⟨msg, rfl⟩ := h f rfl
    exact ⟨msg, rfl⟩
  · exact absurd rfl (hx a)

end FailsWith

theorem writeU16_cons (n : Nat) (rest : List UInt8) :
    writeU16 n ++ rest = UInt8.ofNat (n / 256) :: UInt8.ofNat n :: rest := by
  simp [writeU16]

theorem readU16_writeU16_of_lt {n : Nat} (h : n ≤ 0xFFFF) :
    readU16 (UInt8.ofNat (n / 256)) (UInt8.ofNat n) = n := by
  rw [readU16_writeU16]; omega

/-- The MAC whose bytes are those of another one is that MAC. -/
theorem Mac.eq_of_toList {m : Mac} {l : List UInt8} (h : l.length = macSize) (hl : l = m.toList) :
    (⟨l, h⟩ : Mac) = m := Subtype.ext hl

section

variable {CommandCode : Type} [DecidableEq CommandCode] (codes : Codes CommandCode)

/-! ## Responses -/

/-- Every code with an R-MAC also carries a session ID. -/
theorem hasSessionId_of_hasRmac {code : ResponseCode CommandCode} (h : hasRmac codes code = true) :
    hasSessionId codes code = true := by
  cases code <;> simp_all [hasRmac, hasSessionId]

namespace ResponseMessage

/-- The conditions under which a response is the serialization `parse` reads back. -/
structure WellFormed (r : ResponseMessage CommandCode) : Prop where
  sessionId_isSome : r.sessionId.isSome = hasSessionId codes r.code
  mac_isSome : r.mac.isSome = hasRmac codes r.code
  len_le : r.len ≤ 0xFFFF

omit [DecidableEq CommandCode] in
theorem into_eq_cons (r : ResponseMessage CommandCode) :
    r.into codes = codes.response.toU8 r.code :: UInt8.ofNat (r.len / 256) :: UInt8.ofNat r.len ::
      (sessionIdBytes r.sessionId ++ (r.data ++ macBytes r.mac)) := by
  simp only [into, List.append_assoc, List.singleton_append, List.cons_append, List.nil_append,
    writeU16_cons]

omit [DecidableEq CommandCode] in
theorem length_into (r : ResponseMessage CommandCode) : (r.into codes).length = 3 + r.len := by
  rw [into_eq_cons]
  simp [len]; omega

theorem parseSessionId_sessionIdBytes {code : ResponseCode CommandCode} {sid : Option SessionId}
    (h : sid.isSome = hasSessionId codes code) (rest : List UInt8) :
    parseSessionId codes code (sessionIdBytes sid ++ rest) = .ok (sid, rest) := by
  cases sid <;> simp_all [parseSessionId]

theorem parseSessionId_ok {code : ResponseCode CommandCode} {body rest : List UInt8}
    {sid : Option SessionId} (h : parseSessionId codes code body = .ok (sid, rest)) :
    body = sessionIdBytes sid ++ rest ∧ sid.isSome = hasSessionId codes code := by
  unfold parseSessionId at h
  split at h
  · split at h
    · cases h
    · next id rest' =>
      cases hid : SessionId.new id <;> simp [hid] at h
      obtain ⟨rfl, rfl⟩ := h
      simp_all [SessionId.toU8_of_new hid]
  · cases h; simp_all

theorem parseSessionId_failsWith (code : ResponseCode CommandCode) (body : List UInt8) :
    FailsWith .ProtocolError (parseSessionId codes code body) := by
  unfold parseSessionId
  split
  · split
    · exact .fail _
    · exact (FailsWith.sessionIdNew _).bind fun _ _ => .ok _
  · exact .ok _

theorem parseMac_macBytes {code : ResponseCode CommandCode} {mac : Option Mac}
    (h : mac.isSome = hasRmac codes code) (data : List UInt8) :
    parseMac codes code (data ++ macBytes mac) = .ok (data, mac) := by
  cases mac with
  | none => simp_all [parseMac]
  | some m =>
    have hlen : m.toList.length = macSize := m.2
    simp only [parseMac, ← h, Option.isSome_some, ↓reduceIte, macBytes_some, List.length_append,
      hlen, Nat.add_sub_cancel, List.take_left', List.drop_left', Except.pure_eq]
    rw [dif_neg (by omega)]
    simp only [List.take_left', List.drop_left', Except.ok.injEq, Prod.mk.injEq, true_and]
    exact congrArg some (Mac.eq_of_toList _ rfl)

theorem parseMac_ok {code : ResponseCode CommandCode} {body data : List UInt8} {mac : Option Mac}
    (h : parseMac codes code body = .ok (data, mac)) :
    body = data ++ macBytes mac ∧ mac.isSome = hasRmac codes code := by
  unfold parseMac at h
  split at h
  · split at h
    · cases h
    · cases h; simp_all
  · cases h; simp_all

theorem parseMac_failsWith (code : ResponseCode CommandCode) (body : List UInt8) :
    FailsWith .ProtocolError (parseMac codes code body) := by
  unfold parseMac
  split
  · split
    · exact .fail _
    · exact .ok _
  · exact .ok _

/-- Parsing the serialization of a well-formed response gives it back. -/
theorem parse_into {r : ResponseMessage CommandCode} (h : r.WellFormed codes) :
    parse codes (r.into codes) = .ok r := by
  have hlen := length_into codes r
  have hadd : r.len + 3 < usizeSize := by have := h.len_le; simp only [usizeSize]; omega
  rw [into_eq_cons] at hlen ⊢
  simp only [parse, codes.response.fromU8_toU8, Except.mapError, Except.ok_bind,
    readU16_writeU16_of_lt h.len_le, checkedAddUnwrap_of_lt hadd]
  rw [if_neg (by omega), parseSessionId_sessionIdBytes codes h.sessionId_isSome]
  simp only [Except.ok_bind, parseMac_macBytes codes h.mac_isSome]
  rfl

/-- What `parse` accepts is the serialization of a well-formed response. -/
theorem into_of_parse {b : List UInt8} {r : ResponseMessage CommandCode}
    (h : parse codes b = .ok r) : r.WellFormed codes ∧ r.into codes = b := by
  match b, h with
  | b0 :: b1 :: b2 :: body, h =>
    simp only [parse, Except.bind_eq_ok, Except.mapError_eq_ok] at h
    obtain ⟨code, hcode, total, htotal, h⟩ := h
    have htotal := eq_of_checkedAddUnwrap_eq_ok htotal
    split at h
    · simp [Except.bind_eq_ok, fail] at h
    · next hlen =>
      simp only [Except.bind_eq_ok] at h
      obtain ⟨⟨sid, body'⟩, hsid, ⟨data, mac⟩, hmac, h⟩ := h
      simp only [Except.pure_eq, Except.ok.injEq] at h
      subst h
      obtain ⟨rfl, hsid'⟩ := parseSessionId_ok codes hsid
      obtain ⟨rfl, hmac'⟩ := parseMac_ok codes hmac
      simp only [List.length_cons, List.length_append, length_sessionIdBytes, length_macBytes,
        not_not, htotal] at hlen
      have hl : len ⟨code, sid, data, mac⟩ = readU16 b1 b2 := by
        simp only [len]; omega
      refine ⟨⟨hsid', hmac', hl ▸ Nat.le_of_lt_succ (readU16_lt b1 b2)⟩, ?_⟩
      rw [into_eq_cons]
      simp only [hl, ← writeU16_cons, writeU16_readU16, codes.response.toU8_of_fromU8 hcode]
      simp
  | [], h | [_], h | [_, _], h => simp [parse, fail] at h

/-- `parse` never reaches a panic: its `checked_add` and `checked_sub` never overflow. -/
theorem parse_failsWith (b : List UInt8) : FailsWith .ProtocolError (parse codes b) := by
  match b with
  | b0 :: b1 :: b2 :: body =>
    simp only [parse]
    refine (FailsWith.mapError _).bind fun _ _ => ?_
    have hadd : readU16 b1 b2 + 3 < usizeSize := by
      have := readU16_lt b1 b2; simp only [usizeSize]; omega
    rw [checkedAddUnwrap_of_lt hadd]
    refine (FailsWith.ok _).bind fun _ _ => ?_
    split
    · rw [checkedSubUnwrap_of_le (by simp)]
      exact (FailsWith.ok _).bind fun _ _ => .fail _
    · exact (parseSessionId_failsWith codes _ _).bind fun _ _ =>
        (parseMac_failsWith codes _ _).bind fun _ _ => .ok _
  | [] | [_] | [_, _] => exact .fail _

theorem parse_eq_ok_iff {b : List UInt8} {r : ResponseMessage CommandCode} :
    parse codes b = .ok r ↔ r.WellFormed codes ∧ r.into codes = b :=
  ⟨into_of_parse codes, fun ⟨h, hb⟩ => hb ▸ parse_into codes h⟩

/-- An accepted frame's length field counts the bytes after the header. -/
theorem readU16_of_parse {b0 b1 b2 : UInt8} {body : List UInt8} {r : ResponseMessage CommandCode}
    (h : parse codes (b0 :: b1 :: b2 :: body) = .ok r) : readU16 b1 b2 = body.length := by
  simp only [parse, Except.bind_eq_ok] at h
  obtain ⟨c, -, t, ht, h⟩ := h
  split_ifs at h with hl
  · simp [Except.bind_eq_ok, fail] at h
  · rw [eq_of_checkedAddUnwrap_eq_ok ht] at hl; simp at hl; omega

/-- An accepted frame whose code carries a session ID has a session ID byte below 16. -/
theorem sessionId_lt_of_parse {b0 b1 b2 id : UInt8} {rest : List UInt8}
    {code : ResponseCode CommandCode} {r : ResponseMessage CommandCode}
    (hc : codes.response.fromU8 b0 = .ok code) (hs : hasSessionId codes code = true)
    (h : parse codes (b0 :: b1 :: b2 :: id :: rest) = .ok r) : id.toNat < maxSessions := by
  simp only [parse, hc, Except.mapError, Except.ok_bind, Except.bind_eq_ok] at h
  obtain ⟨t, -, h⟩ := h
  split_ifs at h
  · simp [Except.bind_eq_ok, fail] at h
  obtain ⟨p, hp, -⟩ := Except.bind_eq_ok.mp h
  simp only [parseSessionId, hs, if_true, Except.bind_eq_ok, liftErr, SessionId.new] at hp
  obtain ⟨sid, hsid, -⟩ := hp
  split_ifs at hsid with hlt
  · exact hlt
  · cases hsid

/-- A `SessionMessage` response from `new_with_mac` is well formed when it fits the length
field. -/
theorem wellFormed_newWithMac (id : SessionId) (data : List UInt8) (mac : Mac)
    (h : data.length + 9 ≤ 0xFFFF) :
    (newWithMac (.Success codes.SessionMessage) id data mac).WellFormed codes :=
  ⟨by simp [newWithMac, hasSessionId], by simp [newWithMac, hasRmac],
    by simp [newWithMac, len, macSize]; omega⟩

end ResponseMessage

/-- Error responses carry neither a session ID nor an R-MAC. -/
theorem ResponseMessage.hasSessionId_hasRmac_of_isErr {r : ResponseMessage CommandCode}
    (h : r.isErr = true) : hasSessionId codes r.code = false ∧ hasRmac codes r.code = false := by
  revert h
  unfold ResponseMessage.isErr
  split <;> simp [hasSessionId, hasRmac, *]

/-- **An error frame is four bytes.** Every frame `parse` accepts from which
`from_response_message` reads a kind is the response code, the length 1, and the tag of that
kind: the host reads back the byte the device sent. -/
theorem errorFrame_of_fromResponseMessage {b : List UInt8} {r : ResponseMessage CommandCode}
    {k : HsmErrorKind} (hp : ResponseMessage.parse codes b = .ok r)
    (hk : HsmErrorKind.fromResponseMessage r = some k) :
    b = [codes.response.toU8 r.code, 0, 1, k.toU8] := by
  obtain ⟨hw, rfl⟩ := ResponseMessage.into_of_parse codes hp
  unfold HsmErrorKind.fromResponseMessage at hk
  split at hk
  · next h =>
    obtain ⟨hs, hm⟩ := ResponseMessage.hasSessionId_hasRmac_of_isErr codes h.1
    obtain ⟨tag, htag⟩ := List.length_eq_one.mp h.2
    have hsid : r.sessionId = none := Option.not_isSome_iff_eq_none.mp (by simp [hw.1, hs])
    have hmac : r.mac = none := Option.not_isSome_iff_eq_none.mp (by simp [hw.2, hm])
    cases hk
    simp only [ResponseMessage.into, ResponseMessage.len, hsid, hmac, htag, writeU16]
    simp [htag]
  · cases hk

/-- The sample device's `AuthFail` error frame. -/
theorem errorFrame_of_fromResponseMessage_authFail :
    ResponseMessage.parse Codes.sample [0x04, 0, 1, 0x04] =
        .ok (⟨.DeviceAuthFail, none, [0x04], none⟩ : ResponseMessage SampleCommand) ∧
      HsmErrorKind.fromResponseMessage
          (⟨.DeviceAuthFail, none, [0x04], none⟩ : ResponseMessage SampleCommand) =
        some .AuthFail ∧
      [0x04, 0, 1, 0x04] = [Codes.sample.response.toU8 .DeviceAuthFail, 0, 1,
        HsmErrorKind.AuthFail.toU8] :=
  have hp : ResponseMessage.parse Codes.sample [0x04, 0, 1, 0x04] =
      .ok (⟨.DeviceAuthFail, none, [0x04], none⟩ : ResponseMessage SampleCommand) := rfl
  have hk : HsmErrorKind.fromResponseMessage
      (⟨.DeviceAuthFail, none, [0x04], none⟩ : ResponseMessage SampleCommand) =
        some .AuthFail := rfl
  ⟨hp, hk, errorFrame_of_fromResponseMessage Codes.sample hp hk⟩

/-- **Device errors cross the wire.** The reply the card builds for an error kind serializes
to a frame that `parse` accepts, and `from_response_message` reads back from it the kind
`from_u8(kind.to_u8())`: the kind itself, unless it is the `Unknown` of a tag `from_u8`
names. -/
theorem hsmErrorKind_reply_roundtrip (kind : HsmErrorKind) :
    ResponseMessage.parse codes ((ResponseMessage.ofHsmErrorKind kind).into codes) =
        .ok (ResponseMessage.ofHsmErrorKind kind) ∧
      HsmErrorKind.fromResponseMessage
          (ResponseMessage.ofHsmErrorKind kind : ResponseMessage CommandCode) =
        some (HsmErrorKind.fromU8 kind.toU8) := by
  refine ⟨ResponseMessage.parse_into codes ⟨?_, ?_, ?_⟩, rfl⟩ <;>
    simp [ResponseMessage.ofHsmErrorKind, ResponseMessage.new, ResponseMessage.len, hasSessionId,
      hasRmac]

/-! ## Commands -/

namespace CommandMessage

/-- The conditions under which a command is the serialization `parse` reads back: the session
ID and the MAC are both present for `AuthSession` and `SessionMessage`, and both absent
otherwise. -/
structure WellFormed (m : CommandMessage CommandCode) : Prop where
  sessionId_isSome : m.sessionId.isSome =
    decide (m.commandType = codes.AuthSession ∨ m.commandType = codes.SessionMessage)
  mac_isSome : m.mac.isSome =
    decide (m.commandType = codes.AuthSession ∨ m.commandType = codes.SessionMessage)
  len_le : m.len ≤ 0xFFFF

omit [DecidableEq CommandCode] in
theorem into_eq_cons (m : CommandMessage CommandCode) :
    m.into codes = codes.command.toU8 m.commandType :: UInt8.ofNat (m.len / 256) ::
      UInt8.ofNat m.len :: (sessionIdBytes m.sessionId ++ (m.data ++ macBytes m.mac)) := by
  simp only [into, List.append_assoc, List.singleton_append, List.cons_append, List.nil_append,
    writeU16_cons]

omit [DecidableEq CommandCode] in
theorem length_into (m : CommandMessage CommandCode) : (m.into codes).length = 3 + m.len := by
  rw [into_eq_cons]
  simp [len]; omega

theorem parseBody_bytes {c : CommandCode} {sid : Option SessionId} {mac : Option Mac}
    (hsid : sid.isSome = decide (c = codes.AuthSession ∨ c = codes.SessionMessage))
    (hmac : mac.isSome = decide (c = codes.AuthSession ∨ c = codes.SessionMessage))
    (data : List UInt8) :
    parseBody codes c (sessionIdBytes sid ++ (data ++ macBytes mac)) = .ok (sid, data, mac) := by
  unfold parseBody
  split
  · next hc =>
    obtain ⟨id, rfl⟩ := Option.isSome_iff_exists.mp (by simpa [hc] using hsid)
    obtain ⟨m, rfl⟩ := Option.isSome_iff_exists.mp (by simpa [hc] using hmac)
    have hlen : m.toList.length = macSize := m.2
    simp only [sessionIdBytes_some, List.singleton_append, macBytes_some, SessionId.new_toU8,
      liftErr_ok, Except.ok_bind, List.length_append, hlen, Nat.add_sub_cancel]
    rw [dif_neg (by omega)]
    simp only [List.take_left', List.drop_left', Except.pure_eq, Except.ok.injEq, Prod.mk.injEq,
      true_and]
    exact congrArg some (Mac.eq_of_toList _ rfl)
  · next hc =>
    have hs : sid = none := Option.not_isSome_iff_eq_none.mp (by simp [hsid, hc])
    have hm : mac = none := Option.not_isSome_iff_eq_none.mp (by simp [hmac, hc])
    subst hs hm
    simp

theorem parseBody_ok {c : CommandCode} {body data : List UInt8} {sid : Option SessionId}
    {mac : Option Mac} (h : parseBody codes c body = .ok (sid, data, mac)) :
    body = sessionIdBytes sid ++ (data ++ macBytes mac) ∧
      sid.isSome = decide (c = codes.AuthSession ∨ c = codes.SessionMessage) ∧
      mac.isSome = decide (c = codes.AuthSession ∨ c = codes.SessionMessage) := by
  unfold parseBody at h
  split at h
  · next hc =>
    split at h
    · cases h
    · next id rest =>
      cases hid : SessionId.new id <;> simp only [hid, liftErr_error, liftErr_ok,
        Except.error_bind, Except.ok_bind, reduceCtorEq] at h
      split at h
      · cases h
      · simp only [Except.pure_eq, Except.ok.injEq, Prod.mk.injEq] at h
        obtain ⟨rfl, rfl, rfl⟩ := h
        simp [SessionId.toU8_of_new hid, hc]
  · next hc => cases h; simp [hc]

theorem parseBody_failsWith (c : CommandCode) (body : List UInt8) :
    FailsWith .ProtocolError (parseBody codes c body) := by
  unfold parseBody
  split
  · split
    · exact .fail _
    · refine (FailsWith.sessionIdNew _).bind fun _ _ => ?_
      split
      · exact .fail _
      · exact .ok _
  · exact .ok _

/-- Parsing the serialization of a well-formed command gives it back. -/
theorem parse_into {m : CommandMessage CommandCode} (h : m.WellFormed codes) :
    parse codes (m.into codes) = .ok m := by
  have hlen := length_into codes m
  rw [into_eq_cons] at hlen ⊢
  simp only [parse, codes.command.fromU8_toU8, Except.mapError, Except.ok_bind,
    readU16_writeU16_of_lt h.len_le]
  rw [if_neg (by omega), parseBody_bytes codes h.sessionId_isSome h.mac_isSome]
  rfl

/-- What `parse` accepts is the serialization of a well-formed command. -/
theorem into_of_parse {b : List UInt8} {m : CommandMessage CommandCode}
    (h : parse codes b = .ok m) : m.WellFormed codes ∧ m.into codes = b := by
  match b, h with
  | b0 :: b1 :: b2 :: body, h =>
    simp only [parse, Except.bind_eq_ok, Except.mapError_eq_ok] at h
    obtain ⟨c, hc, h⟩ := h
    split at h
    · cases h
    · next hlen =>
      simp only [Except.bind_eq_ok] at h
      obtain ⟨⟨sid, data, mac⟩, hbody, h⟩ := h
      simp only [Except.pure_eq, Except.ok.injEq] at h
      subst h
      obtain ⟨rfl, hsid, hmac⟩ := parseBody_ok codes hbody
      simp only [List.length_cons, List.length_append, length_sessionIdBytes, length_macBytes,
        not_not] at hlen
      have hl : len ⟨c, sid, data, mac⟩ = readU16 b1 b2 := by
        simp only [len]; omega
      refine ⟨⟨hsid, hmac, hl ▸ Nat.le_of_lt_succ (readU16_lt b1 b2)⟩, ?_⟩
      rw [into_eq_cons]
      simp only [hl, ← writeU16_cons, writeU16_readU16, codes.command.toU8_of_fromU8 hc]
      simp
  | [], h | [_], h | [_, _], h => simp [parse, fail] at h

/-- `parse` never panics. -/
theorem parse_failsWith (b : List UInt8) : FailsWith .ProtocolError (parse codes b) := by
  match b with
  | b0 :: b1 :: b2 :: body =>
    simp only [parse]
    refine (FailsWith.mapError _).bind fun _ _ => ?_
    split
    · exact .fail _
    · exact (parseBody_failsWith codes _ _).bind fun _ _ => .ok _
  | [] | [_] | [_, _] => exact .fail _

theorem parse_eq_ok_iff {b : List UInt8} {m : CommandMessage CommandCode} :
    parse codes b = .ok m ↔ m.WellFormed codes ∧ m.into codes = b :=
  ⟨into_of_parse codes, fun ⟨h, hb⟩ => hb ▸ parse_into codes h⟩

/-- An accepted frame's length field counts the bytes after the header. -/
theorem readU16_of_parse {b0 b1 b2 : UInt8} {body : List UInt8} {m : CommandMessage CommandCode}
    (h : parse codes (b0 :: b1 :: b2 :: body) = .ok m) : readU16 b1 b2 = body.length := by
  simp only [parse, Except.bind_eq_ok] at h
  obtain ⟨c, -, h⟩ := h
  split_ifs at h with hl
  · cases h
  · simp at hl; omega

/-- An accepted `AuthSession` or `SessionMessage` frame has a session ID byte below 16. -/
theorem sessionId_lt_of_parse {b0 b1 b2 id : UInt8} {rest : List UInt8} {c : CommandCode}
    {m : CommandMessage CommandCode} (hc : codes.command.fromU8 b0 = .ok c)
    (hs : c = codes.AuthSession ∨ c = codes.SessionMessage)
    (h : parse codes (b0 :: b1 :: b2 :: id :: rest) = .ok m) : id.toNat < maxSessions := by
  simp only [parse, hc, Except.mapError, Except.ok_bind] at h
  split_ifs at h
  · cases h
  obtain ⟨p, hp, -⟩ := Except.bind_eq_ok.mp h
  simp only [parseBody, if_pos hs, Except.bind_eq_ok, liftErr, SessionId.new] at hp
  obtain ⟨sid, hsid, -⟩ := hp
  split_ifs at hsid with hlt
  · exact hlt
  · cases hsid

omit [DecidableEq CommandCode] in
theorem new_of_length_le {commandType : CommandCode} {commandData : List UInt8}
    (h : commandData.length ≤ maxMsgSize) :
    new commandType commandData = .ok ⟨commandType, none, commandData, none⟩ :=
  if_pos h

/-- A `SessionMessage` command with a session ID and a MAC is well formed when it fits the
length field. -/
theorem wellFormed_sessionMessage (id : SessionId) (data : List UInt8) (mac : Mac)
    (h : data.length + 9 ≤ 0xFFFF) :
    (⟨codes.SessionMessage, some id, data, some mac⟩ :
      CommandMessage CommandCode).WellFormed codes :=
  ⟨by simp, by simp, by simp [len, macSize]; omega⟩

end CommandMessage

/-! ## The two codecs are bijections -/

/-- The response codec is a bijection between well-formed responses and the byte strings
`parse` accepts: `parse` reads back every serialization, accepts nothing else, and rejects
every other byte string with an error, never a panic. -/
theorem responseCodec_bijection :
    (∀ r : ResponseMessage CommandCode, r.WellFormed codes →
      ResponseMessage.parse codes (r.into codes) = .ok r) ∧
    (∀ b (r : ResponseMessage CommandCode), ResponseMessage.parse codes b = .ok r →
      r.WellFormed codes ∧ r.into codes = b) ∧
    (∀ b, (∀ r : ResponseMessage CommandCode, ¬(r.WellFormed codes ∧ r.into codes = b)) →
      ∃ e, ResponseMessage.parse codes b = .error (.err e)) :=
  ⟨fun _ => ResponseMessage.parse_into codes, fun _ _ => ResponseMessage.into_of_parse codes,
    fun b hb => (ResponseMessage.parse_failsWith codes b).eq_ok_or_err.resolve_left
      fun ⟨r, hr⟩ => hb r (ResponseMessage.into_of_parse codes hr)⟩

/-- The command codec is a bijection between well-formed commands and the byte strings `parse`
accepts, in the same three parts. -/
theorem commandCodec_bijection :
    (∀ m : CommandMessage CommandCode, m.WellFormed codes →
      CommandMessage.parse codes (m.into codes) = .ok m) ∧
    (∀ b (m : CommandMessage CommandCode), CommandMessage.parse codes b = .ok m →
      m.WellFormed codes ∧ m.into codes = b) ∧
    (∀ b, (∀ m : CommandMessage CommandCode, ¬(m.WellFormed codes ∧ m.into codes = b)) →
      ∃ e, CommandMessage.parse codes b = .error (.err e)) :=
  ⟨fun _ => CommandMessage.parse_into codes, fun _ _ => CommandMessage.into_of_parse codes,
    fun b hb => (CommandMessage.parse_failsWith codes b).eq_ok_or_err.resolve_left
      fun ⟨m, hm⟩ => hb m (CommandMessage.into_of_parse codes hm)⟩

/-- **Frames with a wrong length field or session ID are rejected.** Both codecs reject, with a
`ProtocolError`, every frame whose length field is not the number of bytes after the header,
and every frame whose code carries a session ID and whose session ID byte is 16 or more. -/
theorem frames_rejected_on_length_or_sessionId :
    (∀ b0 b1 b2 body, readU16 b1 b2 ≠ body.length →
      ∃ msg, CommandMessage.parse codes (b0 :: b1 :: b2 :: body) = fail .ProtocolError msg) ∧
    (∀ b0 b1 b2 id rest c, codes.command.fromU8 b0 = .ok c →
      (c = codes.AuthSession ∨ c = codes.SessionMessage) → maxSessions ≤ id.toNat →
      ∃ msg, CommandMessage.parse codes (b0 :: b1 :: b2 :: id :: rest) = fail .ProtocolError msg) ∧
    (∀ b0 b1 b2 body, readU16 b1 b2 ≠ body.length →
      ∃ msg, ResponseMessage.parse codes (b0 :: b1 :: b2 :: body) = fail .ProtocolError msg) ∧
    (∀ b0 b1 b2 id rest code, codes.response.fromU8 b0 = .ok code →
      hasSessionId codes code = true → maxSessions ≤ id.toNat →
      ∃ msg, ResponseMessage.parse codes (b0 :: b1 :: b2 :: id :: rest) =
        fail .ProtocolError msg) :=
  ⟨fun _ _ _ _ hl => (CommandMessage.parse_failsWith codes _).rejects fun _ h =>
      hl (CommandMessage.readU16_of_parse codes h),
    fun _ _ _ _ _ _ hc hs hid => (CommandMessage.parse_failsWith codes _).rejects fun _ h =>
      Nat.not_le_of_lt (CommandMessage.sessionId_lt_of_parse codes hc hs h) hid,
    fun _ _ _ _ hl => (ResponseMessage.parse_failsWith codes _).rejects fun _ h =>
      hl (ResponseMessage.readU16_of_parse codes h),
    fun _ _ _ _ _ _ hc hs hid => (ResponseMessage.parse_failsWith codes _).rejects fun _ h =>
      Nat.not_le_of_lt (ResponseMessage.sessionId_lt_of_parse codes hc hs h) hid⟩

end

end YubiHsm
