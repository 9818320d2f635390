import TransportConverter.Address
import TransportConverter.Digits
/-!
# Reading the text of an address

A reader takes characters from the front and hands back the value and the characters behind it;
`IpAddress.ofText?` and `SocketAddress.ofText?` want nothing left over.

What is accepted is wider than what is printed: hexadecimal in either case, leading zeros in groups,
ports and zones, any single `::` that stands for at least one group, and an IPv4 address in place of
the last two groups before the end (not before the `::`). An octet of an IPv4 address has one to
three digits and no leading zero.
-/
namespace TransportConverter

/-- What a number may look like: its base, at most how many digits, whether it may start with a zero
that it could do without, and the least number too large for it. -/
structure NumberFormat where
  base : Nat
  maxDigits : Option Nat
  leadingZeros : Bool
  bound : Nat

namespace NumberFormat

def octet : NumberFormat := ⟨10, some 3, false, UInt8.size⟩
def group : NumberFormat := ⟨16, some 4, true, UInt16.size⟩
def port : NumberFormat := ⟨10, none, true, UInt16.size⟩
def scopeId : NumberFormat := ⟨10, none, true, UInt32.size⟩

/-- Reads all the digits that stand at the front. -/
def read (format : NumberFormat) (cs : List Char) : Option (Nat × List Char) :=
  let digits := cs.takeWhile (isDigitIn format.base)
  let value := digitsValue format.base digits
  if digits.isEmpty then none
  else if format.maxDigits.any (· < digits.length) then none
  else if !format.leadingZeros && digits.head? == some '0' && 1 < digits.length then none
  else if format.bound ≤ value then none
  else some (value, cs.dropWhile (isDigitIn format.base))

end NumberFormat

/-- Reads one given character. -/
def readChar (c : Char) : List Char → Option (List Char)
  | d :: rest => if d = c then some rest else none
  | [] => none

namespace Ipv4

def readOctet (cs : List Char) : Option (UInt8 × List Char) :=
  (NumberFormat.octet.read cs).map fun (n, rest) => (UInt8.ofNat n, rest)

def readPointOctet (cs : List Char) : Option (UInt8 × List Char) :=
  (readChar '.' cs).bind readOctet

def read (cs : List Char) : Option (Ipv4 × List Char) := do
  let (a, cs) ← readOctet cs
  let (b, cs) ← readPointOctet cs
  let (c, cs) ← readPointOctet cs
  let (d, cs) ← readPointOctet cs
  return (⟨a, b, c, d⟩, cs)

/-- The two groups that the octets of an IPv4 address fill. -/
def groups (ip : Ipv4) : List UInt16 := [Word.ofBytes ip.a ip.b, Word.ofBytes ip.c ip.d]

end Ipv4

namespace Ipv6

/-- Groups read from the front of a text, whether the last two of them were written as an IPv4
address, and what is left. -/
structure Groups where
  groups : List UInt16
  endsInIpv4 : Bool
  rest : List Char

def readGroup (cs : List Char) : Option (UInt16 × List Char) :=
  (NumberFormat.group.read cs).map fun (n, rest) => (UInt16.ofNat n, rest)

/-- The colon that stands before every group but the first. -/
def readColonUnless (first : Bool) (cs : List Char) : Option (List Char) :=
  if first then some cs else readChar ':' cs

/-- Reads at most `room` groups. -/
def readGroups : (room : Nat) → (first : Bool) → List Char → Groups
  | 0, _, cs => ⟨[], false, cs⟩
  | room + 1, first, cs =>
    let ipv4 := if room = 0 then none else (readColonUnless first cs).bind Ipv4.read
    match ipv4 with
    | some (ip, rest) => ⟨ip.groups, true, rest⟩
    | none =>
      match (readColonUnless first cs).bind readGroup with
      | some (group, rest) =>
        let more := readGroups room false rest
        { more with groups := group :: more.groups }
      | none => ⟨[], false, cs⟩

def read (cs : List Char) : Option (Ipv6 × List Char) := do
  let head := readGroups 8 true cs
  if head.groups.length = 8 then
    return (← ofSegments? head.groups, head.rest)
  if head.endsInIpv4 then none
  let cs ← readChar ':' head.rest
  let cs ← readChar ':' cs
  let tail := readGroups (7 - head.groups.length) true cs
  let zeros := List.replicate (8 - head.groups.length - tail.groups.length) 0
  return (← ofSegments? (head.groups ++ zeros ++ tail.groups), tail.rest)

def readScope (cs : List Char) : Option (Nat × List Char) :=
  (readChar '%' cs).bind NumberFormat.scopeId.read

end Ipv6

/-- The value of a reader that leaves nothing over. -/
def readAll {α : Type} (read : List Char → Option (α × List Char)) (cs : List Char) : Option α :=
  match read cs with
  | some (value, []) => some value
  | _ => none

namespace IpAddress

def read (cs : List Char) : Option (IpAddress × List Char) :=
  match Ipv4.read cs with
  | some (ip, rest) => some (.v4 ip, rest)
  | none => (Ipv6.read cs).map fun (ip, rest) => (.v6 ip, rest)

def ofText? (cs : List Char) : Option IpAddress := readAll read cs

end IpAddress

namespace SocketAddress

def readPort (cs : List Char) : Option (UInt16 × List Char) := do
  let (n, rest) ← (readChar ':' cs).bind NumberFormat.port.read
  return (UInt16.ofNat n, rest)

def readV4 (cs : List Char) : Option (SocketAddress × List Char) := do
  let (ip, cs) ← Ipv4.read cs
  let (port, cs) ← readPort cs
  return (.v4 ip port, cs)

def readV6 (cs : List Char) : Option (SocketAddress × List Char) := do
  let (ip, cs) ← (readChar '[' cs).bind Ipv6.read
  let (scope, cs) := (Ipv6.readScope cs).getD (0, cs)
  let (port, cs) ← (readChar ']' cs).bind readPort
  return (.v6 ip port 0 (UInt32.ofNat scope), cs)

def read (cs : List Char) : Option (SocketAddress × List Char) := readV4 cs <|> readV6 cs

def ofText? (cs : List Char) : Option SocketAddress := readAll read cs

end SocketAddress

end TransportConverter
