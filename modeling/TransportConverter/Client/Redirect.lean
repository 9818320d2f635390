import TransportConverter.Address
/-!
# The state of a redirect

What is remembered about a socket from the moment it is tracked until its redirect is settled. While
the converter's answer is awaited, the part of the request that the socket has not taken yet is kept
here, and one caller at a time holds the claim that lets it send that part or take the answer
(`RedirectState`).
-/
namespace TransportConverter

inductive RedirectPhase where
  | created
  | awaitingRedirect
  | resolved
  | failed
  deriving DecidableEq, Repr

def RedirectPhase.name : RedirectPhase → String
  | created => "Created"
  | awaitingRedirect => "AwaitingRedirect"
  | resolved => "Resolved"
  | failed => "Failed"

structure RedirectState where
  phase : RedirectPhase := .created
  /-- Where the application wants to connect to. -/
  destination : Option SocketAddress := none
  cookie : Option Bytes
  /-- Bytes of the request that the socket has not taken. -/
  pending : Bytes := []
  /-- A caller is sending the request or taking the answer. -/
  claimed : Bool := false
  deriving DecidableEq, Repr

namespace RedirectState

/-- The application connects. -/
def connecting (s : RedirectState) (destination : SocketAddress) : RedirectState :=
  { s with phase := .awaitingRedirect, destination := some destination, claimed := true }

/-- The socket has taken the request except for `rest`. -/
def requested (s : RedirectState) (rest : Bytes) : RedirectState :=
  { s with pending := rest, claimed := false }

def claim (s : RedirectState) : RedirectState := { s with claimed := true }

def release (s : RedirectState) : RedirectState := { s with claimed := false }

/-- The socket has taken `count` more bytes of the request. -/
def sent (s : RedirectState) (count : Nat) : RedirectState :=
  { s with pending := s.pending.drop count }

def resolve (s : RedirectState) : RedirectState := { s with phase := .resolved }

def fail (s : RedirectState) : RedirectState :=
  { s with phase := .failed, claimed := false, pending := [] }

end RedirectState

end TransportConverter
