import TransportConverter.Message
/-!
# What can be wrong with a message

`EncodeError` says why a message cannot be written, `DecodeError` why bytes are not one.
`DecodeError.truncated` is the only one that more bytes can mend.
-/
namespace TransportConverter

/-- A byte as two hexadecimal digits behind `0x`. -/
def hexByte (byte : UInt8) : String :=
  String.ofList ['0', 'x', Nat.digitChar (byte.toNat / 16), Nat.digitChar (byte.toNat % 16)]

inductive EncodeError where
  | bufferTooSmall (needed available : Nat)
  | invalidCookieLength (length : Nat)
  | messageTooLarge (length : Nat)
  /-- A message cannot ask for a destination and report a failure at once. -/
  | conflictingTlvs
  deriving DecidableEq, Repr

/-- The kinds of record that a message has at most once. -/
inductive Field where
  | connect
  | cookie
  | error
  deriving DecidableEq, Repr

def Field.name : Field → String
  | .connect => "Connect"
  | .cookie => "Cookie"
  | .error => "Error"

/-- Why the records of a message make no sense. -/
inductive Malformation where
  /-- Too few bytes are left to say the type and length of a record. -/
  | trailing (count : Nat)
  /-- A record is longer than what is left. -/
  | overrun (kind : UInt8) (length remaining : Nat)
  | reservedType
  | duplicate (field : Field)
  | conflictingTlvs
  | flagMismatch (header found : Flags)
  | described (reason : String)
  deriving DecidableEq, Repr

inductive DecodeError where
  | truncated (needed available : Nat)
  | malformed (reason : Malformation)
  | unsupportedVersion (version : UInt8)
  | unsupportedLength (kind : UInt8) (length : Nat)
  deriving DecidableEq, Repr

def conflictText : String := "Error TLV cannot be combined with a Connect TLV"

def EncodeError.message : EncodeError → String
  | .bufferTooSmall needed available => s!"Buffer too small: need {needed} bytes, have {available}"
  | .invalidCookieLength length => s!"Cookie length {length} outside 1..=256"
  | .messageTooLarge length => s!"Message too large: {length} bytes of TLVs"
  | .conflictingTlvs => conflictText

/-- A word for the kind of error. -/
def EncodeError.kind : EncodeError → String
  | .bufferTooSmall _ _ => "BufferTooSmall"
  | .invalidCookieLength _ => "InvalidCookieLength"
  | .messageTooLarge _ => "MessageTooLarge"
  | .conflictingTlvs => "ConflictingTlvs"

def Malformation.text : Malformation → String
  | .trailing count => s!"{count} trailing bytes do not form a TLV"
  | .overrun kind length remaining =>
    s!"TLV type {hexByte kind} claims {length} bytes, {remaining} remain"
  | .reservedType => "reserved TLV type 0x00"
  | .duplicate field => s!"duplicate {field.name} TLV"
  | .conflictingTlvs => conflictText
  | .flagMismatch header found =>
    s!"header flags {header.text} disagree with TLVs {found.text}"
  | .described reason => reason

def DecodeError.message : DecodeError → String
  | .truncated needed available => s!"Truncated message: need {needed} bytes, have {available}"
  | .malformed reason => s!"Malformed message: {reason.text}"
  | .unsupportedVersion version => s!"Unsupported protocol version {version.toNat}"
  | .unsupportedLength kind length => s!"Unsupported length {length} for TLV type {hexByte kind}"

/-- A word for the kind of error. -/
def DecodeError.kind : DecodeError → String
  | .truncated _ _ => "Truncated"
  | .malformed _ => "Malformed"
  | .unsupportedVersion _ => "UnsupportedVersion"
  | .unsupportedLength _ _ => "UnsupportedLength"

end TransportConverter
