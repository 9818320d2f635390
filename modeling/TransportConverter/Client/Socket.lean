import TransportConverter.Address
import TransportConverter.IoError
/-!
# What a client does to a socket

The calls that a redirect makes on the socket it is handed (`RedirectSocket`), which sockets are
redirected at all, and how a payload is written to one (`WriteSome`): piece by piece, until all of it
is taken or the socket would block, with interrupted writes tried again.
-/
namespace TransportConverter

/-- What a socket can be asked for (`RedirectSocket`). -/
inductive SocketCall where
  /-- Open the connection to the converter and send `payload` on it. -/
  | sendRedirect (payload : Bytes) (converter : SocketAddress) (fastOpen : Bool)
  | send (payload : Bytes)
  /-- Look at up to `room` bytes and leave them. -/
  | peek (room : Nat)
  /-- Take exactly `count` bytes. -/
  | receiveExact (count : Nat)
  /-- Make closing the socket reset the connection. -/
  | setAbortiveClose
  deriving DecidableEq, Repr

/-- The protocol number of multipath sockets (`IPPROTO_MPTCP`). -/
def multipathProtocol : Int32 := 262

/-- The flags that may be given together with the type of a socket. -/
def socketTypeFlags : Int32 := 0o4000 ||| 0o2000000

/-- Only multipath stream sockets of the two internet families are redirected (`is_candidate`). -/
def isCandidate (domain type protocol : Int32) : Bool :=
  let type := type &&& ~~~socketTypeFlags
  (domain == 2 || domain == 10) && type == 1 && protocol == multipathProtocol

inductive AddressFamily where
  | ipv4
  | ipv6
  deriving DecidableEq, Repr

/-- A socket has the family of the address it is to reach. -/
def SocketAddress.family : SocketAddress → AddressFamily
  | .v4 .. => .ipv4
  | .v6 .. => .ipv6

/-- Whether the system has no multipath sockets, as opposed to none left (`multipath_unavailable`). -/
def multipathUnavailable (e : IoError) : Bool :=
  e.number? == some 93 || e.number? == some 22 || e.number? == some 92

/-! ## Writing -/

/-- Where a write of a payload stands (`write_some`). -/
inductive WriteSome where
  /-- `rest` is offered to the socket; `written` bytes before it were taken. -/
  | offering (written : Nat) (rest : Bytes)
  | done (result : Except IoError Nat)

namespace WriteSome

/-- Offers what is left, or ends when nothing is. -/
def offer (written : Nat) : Bytes → WriteSome
  | [] => done (.ok written)
  | rest => offering written rest

def start (payload : Bytes) : WriteSome := offer 0 payload

/-- Goes on after the socket has answered a write (the body of the loop of `write_some`). -/
def answer : WriteSome → Except IoError Nat → WriteSome
  | done result, _ => done result
  | offering written rest, .ok count =>
    if count = 0 then done (.error (.bare .writeZero)) else offer (written + count) (rest.drop count)
  | offering written rest, .error e =>
    if e.kind = .interrupted then offering written rest
    else if e.kind = .wouldBlock then done (.ok written)
    else done (.error e)

/-- The write after a number of answers. -/
def run (payload : Bytes) (answers : List (Except IoError Nat)) : WriteSome :=
  answers.foldl answer (start payload)

end WriteSome

end TransportConverter
