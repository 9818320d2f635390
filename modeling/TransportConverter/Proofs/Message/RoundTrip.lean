import TransportConverter.Proofs.Message.Grammar
/-!
# Reading back what was written

The wire form of a valid message is a message of the grammar, with anything behind it, and it says
the message in its normal form (`Message.spells_wire`). So the two ends of a connection agree, though
the writer goes by the fields of a message and the reader by the records it finds.
-/
namespace TransportConverter

namespace Tlv

open RawRecord

/-- A record with its type and value apart. -/
def raw (tlv : Tlv) : RawRecord := ⟨tlv.kind, tlv.value⟩

/-- Records written one behind the other split into the same records, as long as the length of each
fits its two bytes. -/
theorem splits_flatMap_wire {tlvs : List Tlv} (short : ∀ tlv ∈ tlvs, tlv.valueLength ≤ 256) :
    Splits (tlvs.flatMap wire) (tlvs.map raw) := by
  induction tlvs with
  | nil => exact .nil
  | cons tlv rest ih =>
    have length := short tlv (by simp)
    have fits : tlv.value.length = (Word.ofBytes (Word.high (.ofNat tlv.valueLength))
        (Word.low (.ofNat tlv.valueLength))).toNat := by
      rw [Word.ofBytes_high_low, length_value, UInt16.toNat_ofNat']
      omega
    have splits : Splits (tlv.kind :: _ :: _ :: (tlv.value ++ _)) _ :=
      .cons fits (ih fun t ht => short t (by simp [ht]))
    simpa [wire, raw, Word.toBytes] using splits

end Tlv

namespace Message

open RawRecord

theorem values_tlvs_connect (m : Message) : values 0x0a (m.tlvs.map Tlv.raw) =
    (m.connect.map fun d => (Tlv.connect d).value).toList := by
  obtain ⟨connect, cookie, error⟩ := m
  cases connect <;> cases cookie <;> cases error <;>
    simp [values, tlvs, Tlv.raw, Tlv.kind, connectType, cookieType, errorType]

theorem values_tlvs_cookie (m : Message) : values 0x16 (m.tlvs.map Tlv.raw) =
    m.cookie.toList := by
  obtain ⟨connect, cookie, error⟩ := m
  cases connect <;> cases cookie <;> cases error <;>
    simp [values, tlvs, Tlv.raw, Tlv.kind, Tlv.value, connectType, cookieType, errorType]

theorem values_tlvs_error (m : Message) : values 0x1e (m.tlvs.map Tlv.raw) =
    (m.error.map fun code => [code.code]).toList := by
  obtain ⟨connect, cookie, error⟩ := m
  cases connect <;> cases cookie <;> cases error <;>
    simp [values, tlvs, Tlv.raw, Tlv.kind, Tlv.value, connectType, cookieType, errorType]

/-- What a destination is written as names that destination in its normal form. -/
theorem namesDestination_value (destination : SocketAddress) :
    NamesDestination (Tlv.connect destination).value destination.normal := by
  refine ⟨destination.ip.toWire, Word.high destination.port, Word.low destination.port,
    destination.ip.length_toWire, rfl, ?_⟩
  rw [IpAddress.ofWire_toWire, Word.ofBytes_high_low]
  rfl

/-- The records of a valid message say its normal form. -/
theorem says_tlvs {m : Message} (h : m.Valid) : Says (m.tlvs.map Tlv.raw) m.normal := by
  refine ⟨?_, ?_, ?_⟩
  · rw [values_tlvs_connect]
    simp only [normal]
    cases m.connect with
    | none => exact .absent
    | some d => exact .present (namesDestination_value d)
  · rw [values_tlvs_cookie]
    simp only [normal]
    cases set : m.cookie with
    | none => exact .absent
    | some cookie => exact .present ⟨rfl, h.cookie_length cookie set⟩
  · rw [values_tlvs_error]
    simp only [normal]
    cases m.error with
    | none => exact .absent
    | some code => exact .present ⟨code.code, rfl, rfl⟩

theorem typed_tlvs (m : Message) : ∀ r ∈ m.tlvs.map Tlv.raw, r.kind ≠ 0 := by
  intro r hr
  obtain ⟨tlv, -, rfl⟩ := List.mem_map.1 hr
  cases tlv <;> simp [Tlv.raw, Tlv.kind, connectType, cookieType, errorType]

/-- The flag byte of a message names its fields, and its normal form has the same fields. -/
theorem flags_normal (m : Message) : m.normal.flags = .ofByte m.flags.toByte := by
  rw [Flags.ofByte_toByte]
  simp [flags, normal]

theorem length_records (m : Message) : (m.tlvs.flatMap Tlv.wire).length = m.tlvLength := by
  have := length_wire m
  simp only [wire, List.cons_append, List.length_cons, List.length_append, Word.length_toBytes,
    encodedLength, headerLength] at this
  omega

/-- The length of the records of a valid message fits the two bytes that its header has for it. -/
theorem declared_length {m : Message} (h : m.Valid) :
    (Word.ofBytes (Word.high (.ofNat (m.encodedLength - headerLength)))
      (Word.low (.ofNat (m.encodedLength - headerLength)))).toNat = m.tlvLength := by
  have := tlvLength_le h
  rw [Word.ofBytes_high_low, UInt16.toNat_ofNat', encodedLength, headerLength]
  omega

/-- **What is written is a message**, whatever stands behind it, and says the normal form of what was
to be written. -/
theorem spells_wire {m : Message} (h : m.Valid) (tail : Bytes) :
    Spells (m.wire ++ tail) m.normal m.wire.length := by
  have calm : ¬ (m.normal.connect.isSome ∧ m.normal.error.isSome) := by
    simpa [normal] using h.exclusive
  have admitted : Admitted m.flags.toByte (m.tlvs.map Tlv.raw) :=
    (admitted_iff (says_tlvs h)).2 ⟨typed_tlvs m, calm, flags_normal m⟩
  refine ⟨_, _, _, m.tlvs.flatMap Tlv.wire ++ tail, m.tlvs.map Tlv.raw, rfl, ?_, ?_, ?_, admitted,
    says_tlvs h⟩
  · rw [declared_length h, length_wire]
    rfl
  · rw [List.length_append]
    exact Nat.le_add_right _ _
  · rw [declared_length h, ← length_records, List.take_left]
    exact Tlv.splits_flatMap_wire fun tlv mem => valueLength_le h mem

end Message

/-! ## When nothing is lost -/

namespace SocketAddress

/-- An address of which the wire form of its host and its port tell everything. -/
def Plain : SocketAddress → Prop
  | .v4 .. => True
  | .v6 ip _ flowInfo scopeId => ip.mapped? = none ∧ flowInfo = 0 ∧ scopeId = 0

theorem normal_eq_self_iff {address : SocketAddress} :
    address.normal = address ↔ address.Plain := by
  cases address with
  | v4 ip port =>
    simp [normal, ofIp, SocketAddress.ip, IpAddress.canonical, SocketAddress.port, Plain]
  | v6 ip port flowInfo scopeId =>
    simp only [normal, SocketAddress.ip, IpAddress.canonical, SocketAddress.port, Plain]
    cases ip.mapped? with
    | some mapped => simp [ofIp]
    | none => simp [ofIp, eq_comm]

end SocketAddress

namespace Message

/-- Reading a message back loses what the wire form of its destination leaves out, and nothing
else. -/
theorem normal_same_iff {m : Message} : m.normal.same m = true ↔
    ∀ destination, m.connect = some destination → destination.Plain := by
  obtain ⟨connect, cookie, error⟩ := m
  have codes : (error.map ErrorCode.registered).map ErrorCode.code = error.map ErrorCode.code := by
    cases error <;> simp [ErrorCode.registered]
  simp only [same, normal, codes, beq_self_eq_true, Bool.and_true, beq_iff_eq]
  cases connect with
  | none => simp
  | some destination => simp [SocketAddress.normal_eq_self_iff]

/-- **Reading undoes writing**, with anything behind the message: what is read is the normal form
of what was written, and that is the same message unless its destination has an IPv6 address that
maps an IPv4 address, a flow label or a zone. -/
theorem decode_encode_append (m : Message) (valid : m.Valid) (tail : Bytes) :
    ∃ v, m.encode = .ok v ∧ decode (v ++ tail) = .ok (m.normal, v.length) ∧
      (m.normal.same m = true ↔
        ∀ destination, m.connect = some destination → destination.Plain) :=
  ⟨m.wire, encode_of_valid valid, decode_of_spells (spells_wire valid tail), normal_same_iff⟩

/-- A mapped destination with a zone and a cookie, and bytes of the application behind. -/
theorem decode_encode_append_mapped :
    let m : Message := { connect := some (.v6 (Ipv4.toMapped ⟨203, 0, 113, 5⟩) 443 0 3)
                         cookie := some [1, 2] }
    m.Valid ∧ ∃ v, m.encode = .ok v ∧ decode (v ++ [71, 69, 84]) = .ok (m.normal, v.length) ∧
      (m.normal.same m = true ↔
        ∀ destination, m.connect = some destination → destination.Plain) := by
  have valid : Message.Valid { connect := some (.v6 (Ipv4.toMapped ⟨203, 0, 113, 5⟩) 443 0 3)
                               cookie := some [1, 2] } :=
    ⟨by simp, by rintro _ ⟨⟩; decide⟩
  exact ⟨valid, decode_encode_append _ valid _⟩

end Message

end TransportConverter
