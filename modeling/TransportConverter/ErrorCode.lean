import TransportConverter.Bytes
/-!
# Error codes

The codes that an Error record carries. A byte outside the registry is kept as it was received, and
`ErrorCode.ofByte` never keeps a registered code that way, so it is the inverse of `ErrorCode.code`
on what is received (`ErrorCode.code_ofByte`). A code kept as a byte means what the registry says
of that byte: it has the same text, and counts as the same code.
-/
namespace TransportConverter

inductive ErrorCode where
  | unsupportedVersion
  | malformedMessage
  | unsupportedMessage
  | missingCookie
  | notAuthorized
  | unsupportedTcpOption
  | resourceExceeded
  | networkFailure
  | connectionReset
  | destinationUnreachable
  | other (code : UInt8)
  deriving DecidableEq, Repr

namespace ErrorCode

/-- The byte that stands for a code in a message (`code`). -/
def code : ErrorCode → UInt8
  | unsupportedVersion => 0
  | malformedMessage => 1
  | unsupportedMessage => 2
  | missingCookie => 3
  | notAuthorized => 32
  | unsupportedTcpOption => 33
  | resourceExceeded => 64
  | networkFailure => 65
  | connectionReset => 96
  | destinationUnreachable => 97
  | other code => code

/-- The codes that have a name. -/
def registry : List ErrorCode :=
  [unsupportedVersion, malformedMessage, unsupportedMessage, missingCookie, notAuthorized,
    unsupportedTcpOption, resourceExceeded, networkFailure, connectionReset, destinationUnreachable]

/-- The code that a byte of a message stands for (`ErrorCode::from`). -/
def ofByte (byte : UInt8) : ErrorCode :=
  (registry.find? (fun c => c.code == byte)).getD (other byte)

@[simp] theorem code_ofByte (byte : UInt8) : (ofByte byte).code = byte := by
  unfold ofByte
  cases h : registry.find? (fun c => c.code == byte) with
  | none => rfl
  | some c => simpa using List.find?_some h

/-- The code with a registered byte named by its name. -/
def registered (c : ErrorCode) : ErrorCode := ofByte c.code

/-- Two codes are the same when the same byte stands for them (`eq`). -/
def same (a b : ErrorCode) : Bool := a.code == b.code

/-- The name in the registry, or the byte of a code kept as one. -/
def name : ErrorCode → String
  | unsupportedVersion => "UnsupportedVersion"
  | malformedMessage => "MalformedMessage"
  | unsupportedMessage => "UnsupportedMessage"
  | missingCookie => "MissingCookie"
  | notAuthorized => "NotAuthorized"
  | unsupportedTcpOption => "UnsupportedTcpOption"
  | resourceExceeded => "ResourceExceeded"
  | networkFailure => "NetworkFailure"
  | connectionReset => "ConnectionReset"
  | destinationUnreachable => "DestinationUnreachable"
  | other code => s!"Other({code.toNat})"

def text (c : ErrorCode) : String :=
  match c.registered with
  | other code => s!"unknown error ({code.toNat})"
  | known => s!"{known.name} ({known.code.toNat})"

end ErrorCode

end TransportConverter
