import TransportConverter.Bytes
/-!
# Addresses

Internet addresses of both families, socket addresses, and the sixteen-byte form in which a message
carries an address. An IPv4 address `a.b.c.d` and the IPv6 address `::ffff:a.b.c.d` that maps it
name the same host: `IpAddress.canonical` picks the IPv4 spelling, and the wire form of the two is
one and the same (`IpAddress.toWire_canonical`). Reading a wire form back gives the canonical
spelling (`IpAddress.ofWire_toWire`), and every sixteen bytes are the wire form of what they read
as (`IpAddress.toWire_ofWire`).
-/
namespace TransportConverter

structure Ipv4 where
  a : UInt8
  b : UInt8
  c : UInt8
  d : UInt8
  deriving DecidableEq, Repr

/-- Sixteen octets, the first sent first. -/
structure Ipv6 where
  octets : Bytes
  length_octets : octets.length = 16
  deriving DecidableEq, Repr

inductive IpAddress where
  | v4 (ip : Ipv4)
  | v6 (ip : Ipv6)
  deriving DecidableEq, Repr

/-- Where a socket can connect to or listen on. Only IPv6 has a flow label and a zone. -/
inductive SocketAddress where
  | v4 (ip : Ipv4) (port : UInt16)
  | v6 (ip : Ipv6) (port : UInt16) (flowInfo : UInt32) (scopeId : UInt32)
  deriving DecidableEq, Repr

/-- The first twelve octets of an IPv6 address that maps an IPv4 address. -/
def mappedHead : Bytes := [0, 0, 0, 0, 0, 0, 0, 0, 0, 0, 255, 255]

def Ipv4.octets (ip : Ipv4) : Bytes := [ip.a, ip.b, ip.c, ip.d]

/-- The IPv6 address that maps `ip`. -/
def Ipv4.toMapped (ip : Ipv4) : Ipv6 := ⟨mappedHead ++ ip.octets, rfl⟩

/-- The IPv4 address that `ip` maps, if it maps one. -/
def Ipv6.mapped? (ip : Ipv6) : Option Ipv4 :=
  if ip.octets.take 12 = mappedHead then
    match ip.octets.drop 12 with
    | [a, b, c, d] => some ⟨a, b, c, d⟩
    | _ => none
  else none

@[simp] theorem Ipv4.mapped?_toMapped (ip : Ipv4) : ip.toMapped.mapped? = some ip := rfl

theorem Ipv6.mapped?_eq_some_iff {ip : Ipv6} {v : Ipv4} :
    ip.mapped? = some v ↔ ip = v.toMapped := by
  constructor
  · intro h
    obtain ⟨octets, length⟩ := ip
    simp only [Ipv6.mapped?] at h
    split at h
    · rename_i head
      split at h
      · rename_i a b c d tail
        cases h
        simp only [Ipv4.toMapped, Ipv4.octets, Ipv6.mk.injEq]
        rw [← head, ← tail, List.take_append_drop]
      · cases h
    · cases h
  · rintro rfl
    simp

/-- The eight groups that the text of an address is made of. -/
def Ipv6.segments (ip : Ipv6) : List UInt16 := Word.pairs ip.octets

/-- The address of eight groups. -/
def Ipv6.ofSegments? (groups : List UInt16) : Option Ipv6 :=
  if h : groups.length = 8 then
    some ⟨groups.flatMap Word.toBytes, by rw [Word.length_flatMap_toBytes, h]⟩
  else none

namespace IpAddress

/-- The spelling used for comparison: a mapped IPv4 address as that address (`to_canonical`). -/
def canonical : IpAddress → IpAddress
  | .v4 ip => .v4 ip
  | .v6 ip =>
    match ip.mapped? with
    | some mapped => .v4 mapped
    | none => .v6 ip

/-- The sixteen bytes that stand for an address in a message (`to_wire_addr`). -/
def toWire : IpAddress → Bytes
  | .v4 ip => mappedHead ++ ip.octets
  | .v6 ip => ip.octets

/-- The address that sixteen bytes of a message stand for (`from_wire_addr`). -/
def ofWire (octets : Bytes) (h : octets.length = 16) : IpAddress :=
  match (Ipv6.mk octets h).mapped? with
  | some mapped => .v4 mapped
  | none => .v6 ⟨octets, h⟩

@[simp] theorem length_toWire (ip : IpAddress) : ip.toWire.length = 16 := by
  cases ip with
  | v4 ip => rfl
  | v6 ip => exact ip.length_octets

@[simp] theorem toWire_canonical (ip : IpAddress) : ip.canonical.toWire = ip.toWire := by
  cases ip with
  | v4 ip => rfl
  | v6 ip =>
    simp only [canonical]
    split
    · rename_i v h
      rw [Ipv6.mapped?_eq_some_iff.1 h]
      rfl
    · rfl

theorem ofWire_toWire (ip : IpAddress) : ofWire ip.toWire ip.length_toWire = ip.canonical := by
  cases ip with
  | v4 ip => rfl
  | v6 ip => rfl

theorem toWire_ofWire (octets : Bytes) (h : octets.length = 16) :
    (ofWire octets h).toWire = octets := by
  have := toWire_canonical (.v6 ⟨octets, h⟩)
  exact this

@[simp] theorem canonical_ofWire (octets : Bytes) (h : octets.length = 16) :
    (ofWire octets h).canonical = ofWire octets h := by
  unfold ofWire
  split
  · rfl
  · rename_i unmapped
    simp only [canonical, unmapped]

end IpAddress

namespace SocketAddress

/-- The address of a host and a port, with no flow label and no zone. -/
def ofIp : IpAddress → UInt16 → SocketAddress
  | .v4 ip, port => .v4 ip port
  | .v6 ip, port => .v6 ip port 0 0

def ip : SocketAddress → IpAddress
  | .v4 ip _ => .v4 ip
  | .v6 ip _ _ _ => .v6 ip

def port : SocketAddress → UInt16
  | .v4 _ port => port
  | .v6 _ port _ _ => port

@[simp] theorem ip_ofIp (ip : IpAddress) (port : UInt16) : (ofIp ip port).ip = ip := by
  cases ip <;> rfl

@[simp] theorem port_ofIp (ip : IpAddress) (port : UInt16) : (ofIp ip port).port = port := by
  cases ip <;> rfl

/-- The same host and port as the other end of a message reads them: canonical, with no flow label
and no zone. -/
def normal (address : SocketAddress) : SocketAddress := ofIp address.ip.canonical address.port

end SocketAddress

end TransportConverter
