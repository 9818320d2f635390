import TransportConverter.Proofs.Message.Canonical
import TransportConverter.Converter.Session
/-!
# Blocked hosts, whatever they are called

A host has several spellings: as an IPv4 address or as the IPv6 address that maps it, and in a list of
blocked hosts as in a request. Two spellings name one host exactly when a message carries them as the
same sixteen octets (`IpAddress.canonical_eq_iff`), so that a list of blocked hosts can be read as a list
of octets that no request gets through with.

The main result is `ServerConfig.blocks_by_wire`.
-/
namespace TransportConverter

namespace IpAddress

theorem ofWire_congr {octets octets' : Bytes} (same : octets = octets') (h : octets.length = 16)
    (h' : octets'.length = 16) : ofWire octets h = ofWire octets' h' := by
  subst same
  rfl

/-- **Two spellings name one host when a message carries them as the same octets.** -/
theorem canonical_eq_iff {a b : IpAddress} : a.canonical = b.canonical ↔ a.toWire = b.toWire := by
  constructor
  · intro same
    rw [← toWire_canonical a, same, toWire_canonical]
  · intro same
    rw [← ofWire_toWire a, ← ofWire_toWire b]
    exact ofWire_congr same _ _

/-- Only a mapped address has another spelling. -/
theorem canonical_of_unmapped {ip : IpAddress} (unmapped : ∀ v, ip ≠ .v6 (Ipv4.toMapped v)) :
    ip.canonical = ip := by
  cases ip with
  | v4 ip => rfl
  | v6 ip =>
    have none : ip.mapped? = none := by
      rw [Option.eq_none_iff_forall_ne_some]
      intro v mapped
      exact unmapped v (congrArg v6 (Ipv6.mapped?_eq_some_iff.1 mapped))
    simp only [canonical, none]

end IpAddress

namespace ServerConfig

variable {config : ServerConfig}

/-- The list of blocked hosts is a list of octets. -/
theorem isBlocked_iff {ip : IpAddress} :
    config.isBlocked ip = true ↔ ∃ entry ∈ config.blockedDestinations, ip.toWire = entry.toWire := by
  simp only [isBlocked, List.any_eq_true, beq_iff_eq, IpAddress.canonical_eq_iff]
  exact exists_congr fun entry => and_congr_right fun _ => eq_comm

/-- What is connected to is what was asked for, and is not blocked. -/
theorem unblocked_of_grant {request : Message} {destination : SocketAddress}
    (granted : config.grant request = .ok destination) :
    request.connect = some destination ∧ config.isBlocked destination.ip = false := by
  unfold grant at granted
  split at granted
  · cases granted
  · rename_i asked
    split at granted
    · cases granted
    · split at granted
      · cases granted
      · rename_i unblocked
        cases granted
        exact ⟨asked, by simpa using unblocked⟩

end ServerConfig

namespace Message

open RawRecord

/-- A message asks for the octets that its Connect record carries. -/
theorem toWire_of_connect {bytes octets : Bytes} {hi lo : UInt8} {m : Message} {used : Nat}
    {flags : UInt8} {records : List RawRecord} {destination : SocketAddress}
    (read : decode bytes = .ok (m, used)) (laid : LaidOut bytes used flags records)
    (asks : ⟨connectType, octets ++ [hi, lo]⟩ ∈ records) (length : octets.length = 16)
    (connect : m.connect = some destination) : destination.ip.toWire = octets := by
  obtain ⟨flags', records', laid', said, -⟩ := laidOut_of_decode read
  obtain ⟨-, rfl⟩ := laid.unique laid'
  obtain ⟨value, only, octets', hi', lo', length', rfl, rfl⟩ :=
    (connect ▸ said.connect).exists_value
  -- there is one record of this type, so it is the one that the message was read from
  have mem : octets ++ [hi, lo] ∈ values 0x0a records :=
    List.mem_map_of_mem (List.mem_filter.2 ⟨asks, by simp [connectType]⟩)
  rw [only, List.mem_singleton] at mem
  rw [SocketAddress.ip_ofIp, IpAddress.toWire_ofWire]
  exact (List.append_inj_left mem (length.trans length'.symm)).symm

end Message

namespace ServerConfig

open Message

/-- **What is blocked is octets.** A host is blocked exactly when some blocked host has the same wire
form. So a request gets through only with octets that no blocked host has, whatever cookie comes with
them, and what is connected to has those octets. Every octets are the wire form of what they are read as;
an address comes back from its wire form as it was, or as the IPv4 address that it maps. -/
theorem blocks_by_wire (config : ServerConfig) :
    (∀ ip, config.isBlocked ip = true ↔
      ∃ entry ∈ config.blockedDestinations, ip.toWire = entry.toWire) ∧
    (∀ bytes m used flags records octets hi lo, decode bytes = .ok (m, used) →
      LaidOut bytes used flags records → octets.length = 16 →
      ⟨connectType, octets ++ [hi, lo]⟩ ∈ records →
      ∀ cookie destination, config.grant { m with cookie } = .ok destination →
        destination.ip.toWire = octets ∧
          ∀ entry ∈ config.blockedDestinations, entry.toWire ≠ octets) ∧
    (∀ octets h, (IpAddress.ofWire octets h).toWire = octets) ∧
    (∀ v, IpAddress.ofWire (IpAddress.v6 (Ipv4.toMapped v)).toWire (IpAddress.length_toWire _) =
      .v4 v) ∧
    ∀ ip : IpAddress, (∀ v, ip ≠ .v6 (Ipv4.toMapped v)) →
      IpAddress.ofWire ip.toWire ip.length_toWire = ip := by
  refine ⟨fun ip => isBlocked_iff, ?_, IpAddress.toWire_ofWire, fun v => rfl, ?_⟩
  · intro bytes m used flags records octets hi lo read laid length asks cookie destination granted
    obtain ⟨connect, unblocked⟩ := unblocked_of_grant granted
    have wire := toWire_of_connect read laid asks length connect
    refine ⟨wire, fun entry mem same => ?_⟩
    have blocked := isBlocked_iff.2 ⟨entry, mem, wire.trans same.symm⟩
    rw [unblocked] at blocked
    cases blocked
  · intro ip unmapped
    rw [IpAddress.ofWire_toWire, IpAddress.canonical_of_unmapped unmapped]

/-- One host is blocked by its IPv4 address, and its neighbour is asked for by the IPv6 address that maps
it. -/
theorem blocks_by_wire_mapped :
    let config : ServerConfig := { blockedDestinations := [.v4 ⟨10, 0, 0, 1⟩] }
    let m : Message := request (.v6 (Ipv4.toMapped ⟨10, 0, 0, 2⟩) 443 0 0) (some [7])
    let octets : Bytes := mappedHead ++ [10, 0, 0, 2]
    decode m.wire = .ok (m.normal, m.wire.length) ∧
      LaidOut m.wire m.wire.length m.flags.toByte (m.tlvs.map Tlv.raw) ∧
      ⟨connectType, octets ++ [1, 187]⟩ ∈ m.tlvs.map Tlv.raw ∧
      config.grant m.normal = .ok (.v4 ⟨10, 0, 0, 2⟩ 443) ∧
      (SocketAddress.v4 ⟨10, 0, 0, 2⟩ 443).ip.toWire = octets ∧
      ∀ entry ∈ config.blockedDestinations, entry.toWire ≠ octets := by
  intro config m octets
  have valid : m.Valid := ⟨by simp [m, request], by rintro _ ⟨⟩; decide⟩
  have read := decode_wire valid
  have laid := laidOut_wire valid
  have asks : ⟨connectType, octets ++ [1, 187]⟩ ∈ m.tlvs.map Tlv.raw := by decide
  have granted : config.grant m.normal = .ok (.v4 ⟨10, 0, 0, 2⟩ 443) := rfl
  exact ⟨read, laid, asks, granted,
    (blocks_by_wire config).2.1 _ _ _ _ _ _ _ _ read laid rfl asks (some [7]) _ granted⟩

end ServerConfig

end TransportConverter
