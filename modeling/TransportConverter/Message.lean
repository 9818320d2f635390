import TransportConverter.Address
import TransportConverter.ErrorCode
/-!
# Messages

What one message of the Convert protocol says: the destination a client wants, the cookie it shows,
the failure a converter reports, each of them at most once. Client requests and converter replies
have the same form; an empty message is a converter's "done".

The flag byte of a message says which of the three records are there, so it is computed from the
message and cannot disagree with it.
-/
namespace TransportConverter

/-- Which records a message says it carries (`ConvertFlags`). -/
structure Flags where
  connect : Bool
  cookie : Bool
  error : Bool
  deriving DecidableEq, Repr

namespace Flags

/-- The flags that a byte sets; its five high bits say nothing. -/
def ofByte (byte : UInt8) : Flags where
  connect := byte.toNat.testBit 0
  cookie := byte.toNat.testBit 1
  error := byte.toNat.testBit 2

def toByte (flags : Flags) : UInt8 :=
  (if flags.connect then 1 else 0) + (if flags.cookie then 2 else 0) +
    (if flags.error then 4 else 0)

@[simp] theorem ofByte_toByte (flags : Flags) : ofByte flags.toByte = flags := by
  obtain ⟨connect, cookie, error⟩ := flags
  cases connect <;> cases cookie <;> cases error <;> decide

/-- A byte all of whose bits are flags. -/
def known (byte : UInt8) : Bool := (ofByte byte).toByte == byte

/-- The names of the flags that are set. -/
def names (flags : Flags) : List String :=
  (if flags.connect then ["CONNECT"] else []) ++ (if flags.cookie then ["COOKIE"] else []) ++
    (if flags.error then ["ERROR"] else [])

def text (flags : Flags) : String :=
  let names := flags.names
  "ConvertFlags(" ++ (if names.isEmpty then "0x0" else " | ".intercalate names) ++ ")"

end Flags

/-- What one message says (`ConvertOpts`). -/
structure Message where
  /-- Where the converter should connect to. -/
  connect : Option SocketAddress := none
  /-- What shows that the client may ask. -/
  cookie : Option Bytes := none
  /-- Why the converter did not do it. -/
  error : Option ErrorCode := none
  deriving DecidableEq, Repr

/-- One record of a message (`ConvertTlv`). -/
inductive Tlv where
  | connect (destination : SocketAddress)
  | cookie (value : Bytes)
  | error (code : ErrorCode)
  deriving DecidableEq, Repr

namespace Message

/-- The message that says nothing, which as a reply means success. -/
def empty : Message := {}

/-- A request for a destination. -/
def request (destination : SocketAddress) (cookie : Option Bytes) : Message :=
  { connect := some destination, cookie }

/-- A reply that reports a failure. -/
def failure (code : ErrorCode) : Message := { error := some code }

/-- The flags of a message (`flags`). -/
def flags (m : Message) : Flags := ⟨m.connect.isSome, m.cookie.isSome, m.error.isSome⟩

/-- A failure is reported (`is_error`). -/
def isError (m : Message) : Bool := m.error.isSome

/-- The records in the order in which they are sent (`tlvs`). -/
def tlvs (m : Message) : List Tlv :=
  (m.connect.map Tlv.connect).toList ++ (m.cookie.map Tlv.cookie).toList ++
    (m.error.map Tlv.error).toList

/-- Two messages say the same when their records do; error codes count as their byte. -/
def same (a b : Message) : Bool :=
  a.connect == b.connect && a.cookie == b.cookie &&
    a.error.map ErrorCode.code == b.error.map ErrorCode.code

/-- The message as its reader sees it: the destination in its normal form, and a registered error
code by its name. -/
def normal (m : Message) : Message where
  connect := m.connect.map SocketAddress.normal
  cookie := m.cookie
  error := m.error.map ErrorCode.registered

end Message

end TransportConverter
