import TransportConverter.Address
/-!
# The text of an address

An IPv4 address is four decimal numbers with points between them. An IPv6 address is its eight
groups in lower-case hexadecimal without leading zeros, colons between them, where the longest run
of two or more zero groups (the first of the longest) is written `::`; an address that maps an IPv4
address ends in the text of that. A socket address adds the port, and brackets around an IPv6
address and its zone, unless the zone is 0. The flow label has no text.
-/
namespace TransportConverter

/-- The decimal digits of a number, with no leading zero. -/
def decimal (n : Nat) : List Char := Nat.toDigits 10 n

def Ipv4.text (ip : Ipv4) : List Char :=
  decimal ip.a.toNat ++ '.' :: decimal ip.b.toNat ++ '.' :: decimal ip.c.toNat ++
    '.' :: decimal ip.d.toNat

namespace Ipv6

def groupText (group : UInt16) : List Char := Nat.toDigits 16 group.toNat

/-- Groups with a colon between each two. -/
def groupsText : List UInt16 → List Char
  | [] => []
  | [group] => groupText group
  | group :: rest => groupText group ++ ':' :: groupsText rest

/-- How many groups at the front are zero. -/
def zerosAtFront (groups : List UInt16) : Nat := (groups.takeWhile (· == 0)).length

/-- Start and length of the longest run of zero groups, the first of several that are longest. -/
def longestZeroRun : List UInt16 → Nat × Nat
  | [] => (0, 0)
  | group :: rest =>
    let (start, length) := longestZeroRun rest
    let here := zerosAtFront (group :: rest)
    if length ≤ here then (0, here) else (start + 1, length)

def segmentsText (groups : List UInt16) : List Char :=
  let (start, length) := longestZeroRun groups
  if 1 < length then
    groupsText (groups.take start) ++ ':' :: ':' :: groupsText (groups.drop (start + length))
  else groupsText groups

def text (ip : Ipv6) : List Char :=
  match ip.mapped? with
  | some mapped => "::ffff:".toList ++ mapped.text
  | none => segmentsText ip.segments

end Ipv6

def IpAddress.text : IpAddress → List Char
  | .v4 ip => ip.text
  | .v6 ip => ip.text

def SocketAddress.text : SocketAddress → List Char
  | .v4 ip port => ip.text ++ ':' :: decimal port.toNat
  | .v6 ip port _ scopeId =>
    let scope := if scopeId = 0 then [] else '%' :: decimal scopeId.toNat
    '[' :: ip.text ++ scope ++ ']' :: ':' :: decimal port.toNat

instance : ToString IpAddress := ⟨fun ip => String.ofList ip.text⟩
instance : ToString SocketAddress := ⟨fun address => String.ofList address.text⟩

end TransportConverter
