import TransportConverter.Message.Encoding
/-!
# Reading messages

`Message.decode` reads the message at the front of some bytes, and says how many of them it took;
what stands behind it is not looked at. Records may come in any order, and those of an unknown type
are skipped. Of each known type there is at most one, and the flags of the header must be those of
the records found.

Records are read from the left and the first that offends decides the error (`Message.absorb` for
what is wrong with the record itself). A message that has not arrived as a whole is
`DecodeError.truncated`, which tells how many bytes it takes.
-/
namespace TransportConverter

/-- What the first bytes of a message say (`ConvertHeader`). -/
structure Header where
  flags : Flags
  tlvLength : UInt16
  deriving DecidableEq, Repr

namespace Header

/-- The size of the message behind a header, the header included (`message_len`). -/
def messageLength (h : Header) : Nat := headerLength + h.tlvLength.toNat

/-- Reads the header at the front of some bytes (`decode_header`). -/
def decode : Bytes → Except DecodeError Header
  | version :: flags :: hi :: lo :: _ =>
    if version = protocolVersion then .ok ⟨Flags.ofByte flags, Word.ofBytes hi lo⟩
    else .error (.unsupportedVersion version)
  | short => .error (.truncated headerLength short.length)

end Header

namespace Message

/-- The destination that the value of a Connect record names: sixteen bytes of address, two of
port. -/
def readDestination? (value : Bytes) : Option SocketAddress :=
  if h : (value.take 16).length = 16 then
    match value.drop 16 with
    | [hi, lo] => some (.ofIp (.ofWire (value.take 16) h) (Word.ofBytes hi lo))
    | _ => none
  else none

/-- Adds a record to what has been read of a message (the body of the loop of `decode_tlvs`). -/
def absorb (m : Message) (kind : UInt8) (value : Bytes) : Except DecodeError Message :=
  let unsupported := Except.error (.unsupportedLength kind value.length)
  if kind = 0 then .error (.malformed .reservedType)
  else if kind = connectType then
    if m.connect.isSome then .error (.malformed (.duplicate .connect))
    else match readDestination? value with
      | some destination => .ok { m with connect := some destination }
      | none => unsupported
  else if kind = cookieType then
    if m.cookie.isSome then .error (.malformed (.duplicate .cookie))
    else if value.isEmpty || maxCookieLength < value.length then unsupported
    else .ok { m with cookie := some value }
  else if kind = errorType then
    if m.error.isSome then .error (.malformed (.duplicate .error))
    else match value with
      | [code] => .ok { m with error := some (.ofByte code) }
      | _ => unsupported
  else .ok m

/-- Reads records until none is left. -/
def absorbAll (m : Message) : Bytes → Except DecodeError Message
  | [] => .ok m
  | kind :: hi :: lo :: rest =>
    let length := (Word.ofBytes hi lo).toNat
    let value := rest.take length
    if value.length < length then .error (.malformed (.overrun kind length rest.length))
    else match m.absorb kind value with
      | .ok m => absorbAll m (rest.drop length)
      | .error e => .error e
  | short => .error (.malformed (.trailing short.length))
termination_by region => region.length
decreasing_by simp; omega

/-- Reads the records of a message (`decode_tlvs`). They are the first `declared` bytes. -/
def decodeTlvs (bytes : Bytes) (declared : Nat) : Except DecodeError Message := do
  if bytes.length < declared then throw (.truncated declared bytes.length)
  let m ← empty.absorbAll (bytes.take declared)
  if m.connect.isSome && m.error.isSome then throw (.malformed .conflictingTlvs)
  return m

/-- Reads the message at the front of `bytes`, and how many bytes it takes (`decode`). -/
def decode (bytes : Bytes) : Except DecodeError (Message × Nat) := do
  let header ← Header.decode bytes
  let total := header.messageLength
  if bytes.length < total then throw (.truncated total bytes.length)
  let m ← decodeTlvs (bytes.drop headerLength) header.tlvLength.toNat
  if m.flags ≠ header.flags then throw (.malformed (.flagMismatch header.flags m.flags))
  return (m, total)

end Message

end TransportConverter
