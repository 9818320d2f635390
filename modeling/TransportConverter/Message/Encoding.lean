import TransportConverter.Message.Error
/-!
# Writing messages

A message is a header of four bytes and then its records:

    header:  version (1) | flags (1) | length of the records (2)
    record:  type (1)    | length (2) | value
    Connect: address (16) | port (2)
    Cookie:  1 to 256 bytes
    Error:   code (1)

Sizes are computed from the records before anything is written (`encodedLength`), and the bytes
written agree with them (`length_wire`). `encodeInto` leaves the buffer as it was unless the whole
message fits.
-/
namespace TransportConverter

/-- The version that every header carries. -/
def protocolVersion : UInt8 := 1

/-- Bytes in a header. -/
def headerLength : Nat := 4

/-- Bytes that say the type and length of a record. -/
def tlvHeaderLength : Nat := 3

/-- The most bytes of a cookie (`MAX_COOKIE_LEN`). -/
def maxCookieLength : Nat := 256

def connectType : UInt8 := 0x0a
def cookieType : UInt8 := 0x16
def errorType : UInt8 := 0x1e

def connectValueLength : Nat := 18
def errorValueLength : Nat := 1

namespace Tlv

def kind : Tlv → UInt8
  | connect _ => connectType
  | cookie _ => cookieType
  | error _ => errorType

def valueLength : Tlv → Nat
  | connect _ => connectValueLength
  | cookie value => value.length
  | error _ => errorValueLength

def value : Tlv → Bytes
  | connect destination => destination.ip.toWire ++ Word.toBytes destination.port
  | cookie value => value
  | error code => [code.code]

/-- The bytes of a record. -/
def wire (tlv : Tlv) : Bytes :=
  tlv.kind :: Word.toBytes (UInt16.ofNat tlv.valueLength) ++ tlv.value

theorem length_value (tlv : Tlv) : tlv.value.length = tlv.valueLength := by
  cases tlv <;> simp [value, valueLength, connectValueLength, errorValueLength]

theorem length_wire (tlv : Tlv) : tlv.wire.length = tlvHeaderLength + tlv.valueLength := by
  simp only [wire, List.cons_append, List.length_cons, List.length_append, Word.length_toBytes,
    length_value, tlvHeaderLength]
  omega

end Tlv

namespace Message

/-- Bytes that the records take, each with its header (`tlv_len`). -/
def tlvLength (m : Message) : Nat :=
  m.tlvs.foldr (fun tlv n => tlvHeaderLength + tlv.valueLength + n) 0

/-- Bytes that the message takes (`encoded_len`). -/
def encodedLength (m : Message) : Nat := headerLength + m.tlvLength

/-- The bytes of a message, header and records. -/
def wire (m : Message) : Bytes :=
  protocolVersion :: m.flags.toByte ::
    Word.toBytes (UInt16.ofNat (m.encodedLength - headerLength)) ++ m.tlvs.flatMap Tlv.wire

theorem length_wire (m : Message) : m.wire.length = m.encodedLength := by
  have records : (m.tlvs.flatMap Tlv.wire).length = m.tlvLength := by
    unfold tlvLength
    induction m.tlvs with
    | nil => rfl
    | cons tlv rest ih =>
      rw [List.flatMap_cons, List.length_append, ih, Tlv.length_wire, List.foldr_cons]
  simp only [wire, List.cons_append, List.length_cons, List.length_append, Word.length_toBytes,
    records, encodedLength, headerLength]
  omega

/-- Whether a message can be written at all (`validate`). -/
def check (m : Message) : Except EncodeError Unit :=
  if m.connect.isSome && m.error.isSome then .error .conflictingTlvs
  else if m.cookie.any fun cookie => cookie.isEmpty || maxCookieLength < cookie.length then
    .error (.invalidCookieLength (m.cookie.getD []).length)
  else if UInt16.size ≤ m.tlvLength then .error (.messageTooLarge m.tlvLength)
  else .ok ()

/-- Writes a message over the front of a buffer (`encode`). The answer is the number of bytes written and the
buffer afterwards. -/
def encodeInto (m : Message) (buffer : Bytes) : Except EncodeError (Nat × Bytes) := do
  m.check
  let needed := m.encodedLength
  if buffer.length < needed then throw (.bufferTooSmall needed buffer.length)
  return (needed, m.wire ++ buffer.drop m.wire.length)

/-- A message in a buffer of its own size (`encode_to_vec`). -/
def encode (m : Message) : Except EncodeError Bytes := do
  let (written, buffer) ← m.encodeInto (List.replicate m.encodedLength 0)
  return buffer.take written

end Message

end TransportConverter
