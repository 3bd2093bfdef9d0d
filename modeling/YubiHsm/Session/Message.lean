import YubiHsm.Codes

/-!
# Command and response messages

`session/message.rs`: the APDUs the host and the device exchange, as

`code(1) ∥ length(2, big-endian) ∥ [session_id(1)] ∥ data ∥ [mac(8)]`,

where the length counts everything after the length field. This file has the two message
records, their constructors, `len`, the serializations (`Into<Vec<u8>>`, here `into`) and the
two parsers, with every check, error text and panic point of the source. The UUID that
`CommandMessage` carries is random, read by none of these functions, and left out.

`usize` arithmetic is `Nat` arithmetic; where the source calls `checked_add` or `checked_sub`
and unwraps the result, the model does the same and panics on an overflow at `2^64`.
-/

namespace YubiHsm

/-- `MAX_MSG_SIZE`: maximum size of a message sent to/from the YubiHSM. -/
def maxMsgSize : Nat := 2048

def macSize : Nat := 8

/-- Modelled from the spec: `securechannel/mac.rs` is not part of the sources. A MAC is the
8-byte truncation of a 16-byte CMAC output. -/
abbrev Mac := Bytes macSize

namespace Mac

/-- Modelled from the spec: the MAC of a CMAC output is its first 8 bytes. -/
def ofTag (tag : Block) : Mac := Bytes.take macSize (by decide) tag

/-- Modelled from the spec: `Mac::verify` compares the MAC with the first 8 bytes of a CMAC
output in constant time; it succeeds when they agree. -/
def verify (mac : Mac) (tag : Block) : Bool := mac = ofTag tag

@[simp] theorem toList_ofTag (tag : Block) : (ofTag tag).toList = tag.toList.take 8 := rfl

theorem verify_iff (mac : Mac) (tag : Block) : verify mac tag = true ↔ mac = ofTag tag := by
  simp [verify]

end Mac

/-! ## Failures and `usize` arithmetic -/

/-- `?` on a `Result<_, SessionError>`. -/
def liftErr {α : Type} (r : Except SessionError α) : Except Fault α := r.mapError .err

/-- `fail!(kind, msg)` of a function that returns `Result<_, SessionError>`. -/
def fail {α : Type} (kind : SessionErrorKind) (msg : String) : Except Fault α :=
  .error (.err (err kind msg))

/-- `usize::MAX + 1` on a 64-bit target. -/
def usizeSize : Nat := 2 ^ 64

/-- `a.checked_add(b).unwrap()` on `usize`. -/
def checkedAddUnwrap (a b : Nat) : Except Fault Nat :=
  if a + b < usizeSize then .ok (a + b)
  else .error (.panic "called Option::unwrap() on a None value")

/-- `a.checked_sub(b).unwrap()` on `usize`. -/
def checkedSubUnwrap (a b : Nat) : Except Fault Nat :=
  if b ≤ a then .ok (a - b) else .error (.panic "called Option::unwrap() on a None value")

def sessionIdBytes : Option SessionId → List UInt8
  | some id => [id.toU8]
  | none => []

def macBytes : Option Mac → List UInt8
  | some mac => mac.toList
  | none => []

@[simp] theorem sessionIdBytes_some (id : SessionId) : sessionIdBytes (some id) = [id.toU8] := rfl
@[simp] theorem sessionIdBytes_none : sessionIdBytes none = [] := rfl
@[simp] theorem macBytes_some (mac : Mac) : macBytes (some mac) = mac.toList := rfl
@[simp] theorem macBytes_none : macBytes none = [] := rfl

@[simp] theorem length_sessionIdBytes (id : Option SessionId) :
    (sessionIdBytes id).length = if id.isSome then 1 else 0 := by
  cases id <;> rfl

@[simp] theorem length_macBytes (mac : Option Mac) :
    (macBytes mac).length = if mac.isSome then macSize else 0 := by
  cases mac <;> simp [macBytes]

/-! ## Command messages -/

/-- A command sent from the host to the `YubiHSM2`, authenticated with SCP03's chained MAC
when `mac` is present. -/
structure CommandMessage (CommandCode : Type) where
  commandType : CommandCode
  sessionId : Option SessionId
  data : List UInt8
  mac : Option Mac
  deriving DecidableEq

/-- A response from the `YubiHSM2`: success for a command, or an error. -/
structure ResponseMessage (CommandCode : Type) where
  code : ResponseCode CommandCode
  sessionId : Option SessionId
  data : List UInt8
  mac : Option Mac
  deriving DecidableEq

section

variable {CommandCode : Type} [DecidableEq CommandCode] (codes : Codes CommandCode)

namespace CommandMessage

/-- `CommandMessage::new`: a command without a MAC. -/
def new (commandType : CommandCode) (commandData : List UInt8) :
    Except SessionError (CommandMessage CommandCode) :=
  if commandData.length ≤ maxMsgSize then
    .ok { commandType, sessionId := none, data := commandData, mac := none }
  else .error (err .ProtocolError ("command data too long: " ++ toString commandData.length ++
    " bytes (max " ++ toString maxMsgSize ++ ")"))

/-- `CommandMessage::new_with_mac`: a command with a session ID and a MAC. -/
def newWithMac (commandType : CommandCode) (sessionId : SessionId) (commandData : List UInt8)
    (mac : Mac) : Except SessionError (CommandMessage CommandCode) :=
  if commandData.length ≤ maxMsgSize then
    .ok { commandType, sessionId := some sessionId, data := commandData, mac := some mac }
  else .error (err .ProtocolError ("command data too long: " ++ toString commandData.length ++
    " bytes (max " ++ toString maxMsgSize ++ ")"))

/-- `CommandMessage::len`: the length of the serialized message without the command type and
the length field. -/
def len (m : CommandMessage CommandCode) : Nat :=
  m.data.length + (if m.sessionId.isSome then 1 else 0) + (if m.mac.isSome then macSize else 0)

/-- `Into<Vec<u8>> for CommandMessage`. -/
def into (m : CommandMessage CommandCode) : List UInt8 :=
  [codes.command.toU8 m.commandType] ++ writeU16 m.len ++ sessionIdBytes m.sessionId ++ m.data ++
    macBytes m.mac

/-- What `CommandMessage::parse` does with the bytes after the length field: for
`AuthSession` and `SessionMessage` it takes the session ID off the front and the MAC off the
back. -/
def parseBody (commandType : CommandCode) (body : List UInt8) :
    Except Fault (Option SessionId × List UInt8 × Option Mac) :=
  if commandType = codes.AuthSession ∨ commandType = codes.SessionMessage then
    match body with
    | [] => fail .ProtocolError "expected session ID but command data is empty"
    | id :: rest => do
      let id ← liftErr (SessionId.new id)
      if h : rest.length < macSize then
        fail .ProtocolError ("expected MAC for " ++ codes.command.debug commandType ++
          " but command data is too short: " ++ toString rest.length)
      else
        let macIndex := rest.length - macSize
        pure (some id, rest.take macIndex, some ⟨rest.drop macIndex, by simp; omega⟩)
  else pure (none, body, none)

/-- `CommandMessage::parse`: the command code, the length field checked against the frame,
then the body as `parseBody` splits it. -/
def parse (bytes : List UInt8) : Except Fault (CommandMessage CommandCode) :=
  match bytes with
  | b0 :: b1 :: b2 :: body => do
    let commandType ← (codes.command.fromU8 b0).mapError (.err ∘ err .ProtocolError)
    let length := readU16 b1 b2
    if length + 3 ≠ bytes.length then
      fail .ProtocolError ("unexpected command length " ++ toString (bytes.length - 3) ++
        " (expecting " ++ toString length ++ ")")
    else
      let (sessionId, data, mac) ← parseBody codes commandType body
      pure { commandType, sessionId, data, mac }
  | _ => fail .ProtocolError ("command too short: " ++ toString bytes.length ++
    " (expected at least 3-bytes)")

end CommandMessage

/-! ## Response messages -/

/-- `has_session_id`: do responses with the given code include a session ID? -/
def hasSessionId : ResponseCode CommandCode → Bool
  | .Success cmdType => cmdType = codes.CreateSession || cmdType = codes.SessionMessage
  | _ => false

/-- `has_rmac`: do responses with the given code have a response MAC? -/
def hasRmac : ResponseCode CommandCode → Bool
  | .Success cmdType => cmdType = codes.SessionMessage
  | _ => false

namespace ResponseMessage

/-- `ResponseMessage::new`: a response without an associated session. -/
def new (code : ResponseCode CommandCode) (responseData : List UInt8) :
    ResponseMessage CommandCode :=
  { code, sessionId := none, data := responseData, mac := none }

def newWithMac (code : ResponseCode CommandCode) (sessionId : SessionId)
    (responseData : List UInt8) (mac : Mac) : ResponseMessage CommandCode :=
  { code, sessionId := some sessionId, data := responseData, mac := some mac }

def success (commandType : CommandCode) (responseData : List UInt8) :
    ResponseMessage CommandCode :=
  new (.Success commandType) responseData

/-- `From<HsmErrorKind> for ResponseMessage` (mockhsm): the card's reply to a command that
failed with a device error. -/
def ofHsmErrorKind (kind : HsmErrorKind) : ResponseMessage CommandCode :=
  new .MemoryError [kind.toU8]

/-- `ResponseMessage::is_err`: did an error occur? -/
def isErr (r : ResponseMessage CommandCode) : Bool :=
  match r.code with
  | .Success _ => false
  | _ => true

/-- `ResponseMessage::len`: total length of the response after the length field. -/
def len (r : ResponseMessage CommandCode) : Nat :=
  r.data.length + (if r.sessionId.isSome then 1 else 0) + (if r.mac.isSome then macSize else 0)

/-- `Into<Vec<u8>> for ResponseMessage`. -/
def into (r : ResponseMessage CommandCode) : List UInt8 :=
  [codes.response.toU8 r.code] ++ writeU16 r.len ++ sessionIdBytes r.sessionId ++ r.data ++
    macBytes r.mac

/-- The session ID step of `ResponseMessage::parse`. -/
def parseSessionId (code : ResponseCode CommandCode) (body : List UInt8) :
    Except Fault (Option SessionId × List UInt8) :=
  if hasSessionId codes code then
    match body with
    | [] => fail .ProtocolError "session ID missing"
    | id :: rest => do
      let id ← liftErr (SessionId.new id)
      pure (some id, rest)
  else pure (none, body)

/-- The R-MAC step of `ResponseMessage::parse`. -/
def parseMac (code : ResponseCode CommandCode) (body : List UInt8) :
    Except Fault (List UInt8 × Option Mac) :=
  if hasRmac codes code then
    if h : body.length < macSize then
      fail .ProtocolError ("missing R-MAC for " ++ codes.response.debug code)
    else
      let macIndex := body.length - macSize
      pure (body.take macIndex, some ⟨body.drop macIndex, by simp; omega⟩)
  else pure (body, none)

/-- `ResponseMessage::parse`: the response code, the length field checked against the frame,
then the session ID and the R-MAC that the code calls for. -/
def parse (bytes : List UInt8) : Except Fault (ResponseMessage CommandCode) :=
  match bytes with
  | b0 :: b1 :: b2 :: body => do
    let code ← (codes.response.fromU8 b0).mapError (.err ∘ err .ProtocolError)
    let length := readU16 b1 b2
    let total ← checkedAddUnwrap length 3
    if total ≠ bytes.length then
      let shown ← checkedSubUnwrap bytes.length 3
      fail .ProtocolError ("unexpected response length " ++ toString shown ++
        " (expecting " ++ toString length ++ ")")
    else
      let (sessionId, body) ← parseSessionId codes code body
      let (data, mac) ← parseMac codes code body
      pure { code, sessionId, data, mac }
  | _ => fail .ProtocolError ("response too short: " ++ toString bytes.length ++
    " (expected at least 3-bytes)")

end ResponseMessage

/-- `HsmErrorKind::from_response_message`: the kind of an error response with one byte of
data. -/
def HsmErrorKind.fromResponseMessage (response : ResponseMessage CommandCode) :
    Option HsmErrorKind :=
  if h : response.isErr = true ∧ response.data.length = 1 then
    some (HsmErrorKind.fromU8 (response.data.get ⟨0, by omega⟩))
  else none

end

end YubiHsm
