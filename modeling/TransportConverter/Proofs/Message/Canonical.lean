import Mathlib.Data.List.Basic
import TransportConverter.Proofs.Message.Buffer
import TransportConverter.Proofs.Message.Truncation
/-!
# The one way to write a message

A message can be spelled in many ways: its records may come in any order, with others between them
that no reader knows, and five bits of the flag byte say nothing. Writing what was read picks one of
them. It is the shortest, and any two spellings of one message come to the same bytes.

The main result is `Message.reencode_canonical`, which also says which spellings are that one. Both of
its questions are about records: of how many bytes they are (`RawRecord.wire`), and whether they are the
ones that a writer makes (`RawRecord.arranged`).
-/
namespace TransportConverter

namespace RawRecord

/-! ## A region tells its records -/

/-- The bytes of a record. -/
def wire (r : RawRecord) : Bytes := r.kind :: Word.toBytes (.ofNat r.value.length) ++ r.value

variable {region : Bytes} {records records' : List RawRecord}

theorem Splits.eq_flatMap_wire (splits : Splits region records) :
    region = records.flatMap wire := by
  induction splits with
  | nil => rfl
  | @cons kind hi lo value region records fits _ ih =>
    rw [List.flatMap_cons, ← ih, wire]
    simp only [fits, UInt16.ofNat_toNat, Word.toBytes_ofBytes]
    rfl

/-- There is one way only to split a region. -/
theorem Splits.unique (first : Splits region records) (second : Splits region records') :
    records = records' := by
  induction first generalizing records' with
  | nil =>
    cases second
    rfl
  | @cons kind hi lo value region records fits _ ih =>
    obtain ⟨-, others, rfl, left⟩ := (splits_cons_iff fits.symm).1 second
    rw [List.drop_left] at left
    rw [List.take_left, ih left]

/-! ## The records that are known -/

/-- The types of record that a message is made of, in the order in which they are written. -/
def knownTypes : List UInt8 := [connectType, cookieType, errorType]

/-- The record is of a type that a message is made of. -/
def Known (r : RawRecord) : Prop := r.kind ∈ knownTypes

instance (r : RawRecord) : Decidable r.Known := inferInstanceAs (Decidable (r.kind ∈ knownTypes))

/-- The records of some types, type by type. -/
def arranged (kinds : List UInt8) (records : List RawRecord) : List RawRecord :=
  kinds.flatMap fun kind => records.filter fun r => r.kind = kind

theorem arranged_cons (kind : UInt8) (kinds : List UInt8) (records : List RawRecord) :
    arranged (kind :: kinds) records =
      (records.filter fun r => r.kind = kind) ++ arranged kinds records := List.flatMap_cons

/-- Arranging records moves them, but leaves none of their types out. -/
theorem arranged_perm {kinds : List UInt8} (nodup : kinds.Nodup) (records : List RawRecord) :
    (arranged kinds records).Perm (records.filter fun r => r.kind ∈ kinds) := by
  induction kinds with
  | nil => simp [arranged]
  | cons kind kinds ih =>
    obtain ⟨new, nodup⟩ := List.nodup_cons.1 nodup
    have ours : (records.filter fun r => r.kind = kind) =
        (records.filter fun r => r.kind ∈ kind :: kinds).filter fun r => r.kind = kind := by
      rw [List.filter_filter]
      refine List.filter_congr fun r _ => ?_
      by_cases same : r.kind = kind <;> simp [same]
    have others : (records.filter fun r => r.kind ∈ kinds) =
        (records.filter fun r => r.kind ∈ kind :: kinds).filter fun r => !(r.kind = kind : Bool) := by
      rw [List.filter_filter]
      refine List.filter_congr fun r _ => ?_
      by_cases same : r.kind = kind <;> simp [same, new]
    rw [arranged_cons]
    refine ((ih nodup).append_left _).trans ?_
    rw [ours, others]
    exact List.filter_append_perm _ _

/-- Records that come type by type, one of each at most, are arranged already. -/
theorem arranged_of_sublist {kinds : List UInt8} (nodup : kinds.Nodup)
    (sorted : (records.map kind).Sublist kinds) : arranged kinds records = records := by
  induction kinds generalizing records with
  | nil =>
    rw [List.sublist_nil, List.map_eq_nil_iff] at sorted
    rw [sorted]
    rfl
  | cons k kinds ih =>
    obtain ⟨new, distinct⟩ := List.nodup_cons.1 nodup
    have absent {rest : List RawRecord} (rest_sorted : (rest.map kind).Sublist kinds) :
        (rest.filter fun r => r.kind = k) = [] := by
      rw [List.filter_eq_nil_iff]
      intro r mem
      have : r.kind ∈ kinds := rest_sorted.subset (List.mem_map_of_mem mem)
      simpa using fun same : r.kind = k => new (same ▸ this)
    rw [arranged_cons]
    rcases List.sublist_cons_iff.1 sorted with skipped | ⟨rest, eq, rest_sorted⟩
    · rw [absent skipped, ih distinct skipped, List.nil_append]
    · cases records with
      | nil => cases eq
      | cons r others =>
        obtain ⟨rfl, rfl⟩ := List.cons.inj eq
        have apart : arranged kinds (r :: others) = arranged kinds others := by
          unfold arranged
          refine List.flatMap_congr fun k' mem => ?_
          rw [List.filter_cons_of_neg]
          simpa using fun same : r.kind = k' => new (same ▸ mem)
        rw [List.filter_cons_of_pos (by simp), absent rest_sorted, apart,
          ih distinct rest_sorted]
        rfl

theorem nodup_knownTypes : knownTypes.Nodup := by decide

/-- The known records take the room of all but where there is another record. -/
theorem length_arranged (records : List RawRecord) :
    ((arranged knownTypes records).flatMap wire).length +
      ((records.filter fun r => !decide r.Known).flatMap wire).length =
        (records.flatMap wire).length := by
  rw [((arranged_perm nodup_knownTypes records).flatMap_right wire).length_eq, ← List.length_append,
    ← List.flatMap_append]
  exact ((List.filter_append_perm _ records).flatMap_right wire).length_eq

theorem length_unknown_eq_zero_iff (records : List RawRecord) :
    ((records.filter fun r => !decide r.Known).flatMap wire).length = 0 ↔ ∀ r ∈ records, r.Known := by
  rw [List.length_eq_zero_iff, List.flatMap_eq_nil_iff]
  simp [List.mem_filter, wire]

/-! ## The records that a writer makes -/

/-- A destination is written as it was read. -/
theorem NamesDestination.value_eq {value : Bytes} {destination : SocketAddress}
    (names : NamesDestination value destination) : (Tlv.connect destination).value = value := by
  obtain ⟨octets, hi, lo, length, rfl, rfl⟩ := names
  rw [Tlv.value, SocketAddress.ip_ofIp, SocketAddress.port_ofIp, IpAddress.toWire_ofWire,
    Word.toBytes_ofBytes]

theorem filter_eq_map_values (k : UInt8) (records : List RawRecord) :
    (records.filter fun r => r.kind = k) = (values k records).map (⟨k, ·⟩) := by
  rw [values, List.map_map]
  refine (List.map_id _).symm.trans (List.map_congr_left fun r mem => ?_)
  have kind : r.kind = k := by simpa using (List.mem_filter.1 mem).2
  subst kind
  rfl

/-- The record of a field is the record that it was read from. -/
theorem Carries.raw_eq {α : Type} {Reads : Bytes → α → Prop} {values : List Bytes} {a : Option α}
    (carries : Carries Reads values a) (make : α → Tlv) {k : UInt8}
    (kind : ∀ x, (make x).kind = k) (value : ∀ v x, Reads v x → (make x).value = v) :
    (a.map make).toList.map Tlv.raw = values.map (⟨k, ·⟩) := by
  cases carries with
  | absent => rfl
  | @present v x reads => simp [Tlv.raw, kind, value v x reads]

/-- What is written for a message is the known records it was read from, type by type. -/
theorem Says.tlvs_raw {m : Message} (said : Says records m) :
    m.tlvs.map Tlv.raw = arranged knownTypes records := by
  have connect := said.connect.raw_eq Tlv.connect (fun _ => rfl)
    fun _ _ names => names.value_eq
  have cookie := said.cookie.raw_eq Tlv.cookie (fun _ => rfl)
    fun _ _ is => is.1
  have error := said.error.raw_eq Tlv.error (fun _ => rfl) (by
    rintro _ _ ⟨byte, rfl, rfl⟩
    rw [Tlv.value, ErrorCode.code_ofByte])
  rw [Message.tlvs, List.map_append, List.map_append, connect, cookie, error]
  simp only [arranged, knownTypes, List.flatMap_cons, List.flatMap_nil, List.append_nil,
    filter_eq_map_values, List.append_assoc]
  rfl

/-! ## What was read can be written, and is in its normal form -/

theorem Carries.exists_value {α : Type} {Reads : Bytes → α → Prop} {values : List Bytes} {x : α}
    (carries : Carries Reads values (some x)) : ∃ value, values = [value] ∧ Reads value x := by
  cases carries with
  | present reads => exact ⟨_, rfl, reads⟩

theorem Carries.map_eq_self {α : Type} {Reads : Bytes → α → Prop} {values : List Bytes}
    {a : Option α} (carries : Carries Reads values a) (f : α → α)
    (same : ∀ v x, Reads v x → f x = x) : a.map f = a := by
  cases carries with
  | absent => rfl
  | present reads => rw [Option.map_some, same _ _ reads]

variable {m : Message}

theorem Says.valid (said : Says records m) (exclusive : ¬ (m.connect.isSome ∧ m.error.isSome)) :
    m.Valid := by
  refine ⟨exclusive, fun cookie set => ?_⟩
  obtain ⟨value, -, rfl, length⟩ := (set ▸ said.cookie).exists_value
  exact length

theorem Says.normal_eq (said : Says records m) : m.normal = m := by
  have connect := said.connect.map_eq_self SocketAddress.normal (by
    rintro _ _ ⟨octets, hi, lo, length, rfl, rfl⟩
    rw [SocketAddress.normal, SocketAddress.ip_ofIp, SocketAddress.port_ofIp,
      IpAddress.canonical_ofWire])
  have error := said.error.map_eq_self ErrorCode.registered (by
    rintro _ _ ⟨byte, rfl, rfl⟩
    rw [ErrorCode.registered, ErrorCode.code_ofByte])
  rw [Message.normal, connect, error]

end RawRecord

namespace Message

open RawRecord

/-! ## How a message is laid out -/

/-- Behind a header with the flag byte `flags` there are `records`, and the message of `used` bytes
ends with them. -/
def LaidOut (bytes : Bytes) (used : Nat) (flags : UInt8) (records : List RawRecord) : Prop :=
  ∃ hi lo rest, bytes = 1 :: flags :: hi :: lo :: rest ∧
    used = 4 + (Word.ofBytes hi lo).toNat ∧ used ≤ bytes.length ∧
    Splits (rest.take (Word.ofBytes hi lo).toNat) records

variable {bytes : Bytes} {m : Message} {used used' : Nat} {flags flags' : UInt8}
  {records records' : List RawRecord}

/-- The bytes tell how they are laid out. -/
theorem LaidOut.unique (first : LaidOut bytes used flags records)
    (second : LaidOut bytes used' flags' records') : flags = flags' ∧ records = records' := by
  obtain ⟨hi, lo, rest, rfl, -, -, splits⟩ := first
  obtain ⟨_, _, _, eq, -, -, splits'⟩ := second
  simp only [List.cons.injEq, true_and] at eq
  obtain ⟨rfl, rfl, rfl, rfl⟩ := eq
  exact ⟨rfl, splits.unique splits'⟩

/-- A message is its header, which tells the size of the records, and then the records. -/
theorem LaidOut.take_eq (laid : LaidOut bytes used flags records) :
    used = 4 + (records.flatMap RawRecord.wire).length ∧ bytes.take used =
      1 :: flags :: Word.toBytes (.ofNat (records.flatMap RawRecord.wire).length) ++
        records.flatMap RawRecord.wire := by
  obtain ⟨hi, lo, rest, rfl, rfl, whole, splits⟩ := laid
  have enough : (Word.ofBytes hi lo).toNat ≤ rest.length := by
    simp only [List.length_cons] at whole
    omega
  rw [← splits.eq_flatMap_wire, List.length_take_of_le enough]
  refine ⟨rfl, ?_⟩
  rw [UInt16.ofNat_toNat, Word.toBytes_ofBytes, Nat.add_comm]
  rfl

/-- What is behind a message has no part in how it is laid out. -/
theorem LaidOut.take (laid : LaidOut bytes used flags records) :
    LaidOut (bytes.take used) used flags records := by
  obtain ⟨hi, lo, rest, rfl, rfl, whole, splits⟩ := laid
  refine ⟨hi, lo, rest.take (Word.ofBytes hi lo).toNat, ?_, rfl, ?_, ?_⟩
  · rw [Nat.add_comm]
    rfl
  · rw [List.length_take_of_le whole]
  · rwa [List.take_take, Nat.min_self]

theorem laidOut_of_decode (read : decode bytes = .ok (m, used)) :
    ∃ flags records, LaidOut bytes used flags records ∧ Says records m ∧
      ¬ (m.connect.isSome ∧ m.error.isSome) ∧ m.flags = .ofByte flags := by
  obtain ⟨flags, hi, lo, rest, records, eq, length, whole, splits, admitted, said⟩ :=
    spells_of_decode read
  obtain ⟨-, exclusive, agree⟩ := (admitted_iff said).1 admitted
  exact ⟨flags, records, ⟨hi, lo, rest, eq, length, whole, splits⟩, said, exclusive, agree⟩

theorem laidOut_wire (valid : m.Valid) :
    LaidOut m.wire m.wire.length m.flags.toByte (m.tlvs.map Tlv.raw) := by
  obtain ⟨hi, lo, region, eq, declared, splits, -⟩ := measured_wire valid
  refine ⟨hi, lo, region, eq, ?_, Nat.le_refl _, ?_⟩
  · rw [eq, declared]
    simp only [List.length_cons]
    omega
  · rwa [declared, List.take_length]

theorem kinds_tlvs_sublist (m : Message) :
    ((m.tlvs.map Tlv.raw).map RawRecord.kind).Sublist knownTypes := by
  obtain ⟨connect, cookie, error⟩ := m
  cases connect <;> cases cookie <;> cases error <;>
    simp [tlvs, Tlv.raw, Tlv.kind, knownTypes]

/-- Only the three low bits of a flag byte are written. -/
theorem eq_toByte_iff {flags : UInt8} : flags = (Flags.ofByte flags).toByte ↔ flags.toNat < 8 := by
  constructor
  · intro same
    rw [same]
    exact toByte_lt _
  · intro low
    have table : ∀ n : Fin 8, UInt8.ofNat n = (Flags.ofByte (UInt8.ofNat n)).toByte := by decide
    have := table ⟨flags.toNat, low⟩
    rwa [UInt8.ofNat_toNat] at this

/-! ## The canonical spelling -/

section
variable (laid : LaidOut bytes used flags records) (said : Says records m) (valid : m.Valid)
include laid said valid

/-- Writing what was read leaves out the records that are not known. -/
theorem length_wire_add : m.wire.length +
    ((records.filter fun r => !decide r.Known).flatMap RawRecord.wire).length = used := by
  rw [(laidOut_wire valid).take_eq.1, said.tlvs_raw, Nat.add_assoc, length_arranged,
    laid.take_eq.1]

/-- Writing what was read gives the same bytes where a writer would make the same flag byte and the
same records. -/
theorem wire_eq_iff : m.wire = bytes.take used ↔
    flags = m.flags.toByte ∧ records = m.tlvs.map Tlv.raw := by
  constructor
  · intro same
    exact laid.take.unique (same ▸ laidOut_wire valid)
  · rintro ⟨rfl, rfl⟩
    rw [laid.take_eq.2, ← (laidOut_wire valid).take_eq.2, List.take_length]

end

/-- The records are those of a writer where each is known and they come in the order in which they are
written. -/
theorem eq_tlvs_iff (said : Says records m) :
    records = m.tlvs.map Tlv.raw ↔ (records.map RawRecord.kind).Sublist knownTypes := by
  constructor
  · intro same
    rw [same]
    exact kinds_tlvs_sublist m
  · intro sorted
    rw [said.tlvs_raw, arranged_of_sublist nodup_knownTypes sorted]

/-- **Writing what was read is canonical.** It never fails and says the same message, in as many bytes
or fewer: in as many where every record is of a known type, and in the very same bytes where moreover no
high bit of the flag byte is set and the records come in the order in which they are written. Two
spellings say one message exactly when they come to the same bytes. -/
theorem reencode_canonical (read : decode bytes = .ok (m, used)) :
    ∃ v, m.encode = .ok v ∧ decode v = .ok (m, v.length) ∧ v.length ≤ used ∧
      (∃ flags records, LaidOut bytes used flags records) ∧
      (∀ flags records, LaidOut bytes used flags records →
        (v.length = used ↔ ∀ r ∈ records, r.Known) ∧
        (v = bytes.take used ↔ (∀ r ∈ records, r.Known) ∧ flags.toNat < 8 ∧
          (records.map RawRecord.kind).Sublist [0x0a, 0x16, 0x1e])) ∧
      ∀ bytes' m' used', decode bytes' = .ok (m', used') → (m = m' ↔ m.encode = m'.encode) := by
  have written {bytes : Bytes} {m : Message} {used : Nat} (read : decode bytes = .ok (m, used)) :
      m.encode = .ok m.wire ∧ decode m.wire = .ok (m, m.wire.length) := by
    obtain ⟨flags, records, -, said, exclusive, -⟩ := laidOut_of_decode read
    have valid := said.valid exclusive
    have again := decode_wire valid
    rw [said.normal_eq] at again
    exact ⟨encode_of_valid valid, again⟩
  obtain ⟨flags, records, laid, said, exclusive, agree⟩ := laidOut_of_decode read
  have valid := said.valid exclusive
  have length := length_wire_add laid said valid
  refine ⟨m.wire, (written read).1, (written read).2, by omega, ⟨flags, records, laid⟩, ?_, ?_⟩
  · intro flags' records' laid'
    obtain ⟨rfl, rfl⟩ := laid.unique laid'
    refine ⟨?_, ?_⟩
    · rw [← length_unknown_eq_zero_iff]
      omega
    · rw [wire_eq_iff laid said valid, agree, eq_toByte_iff, eq_tlvs_iff said]
      constructor
      · rintro ⟨low, sorted⟩
        exact ⟨fun r mem => sorted.subset (List.mem_map_of_mem mem), low, sorted⟩
      · rintro ⟨-, low, sorted⟩
        exact ⟨low, sorted⟩
  · intro bytes' m' used' read'
    constructor
    · rintro rfl
      rfl
    · intro same
      rw [(written read).1, (written read').1] at same
      have again := (written read').2
      rw [← Except.ok.inj same, (written read).2] at again
      exact congrArg Prod.fst (Except.ok.inj again)

/-- A record that no reader knows stands before a cookie, and the flag byte has high bits: what is
written is shorter. -/
theorem reencode_canonical_unknown :
    let bytes : Bytes := [1, 0xf2, 0, 8, 0x40, 0, 1, 9, 0x16, 0, 1, 7]
    let m : Message := { cookie := some [7] }
    decode bytes = .ok (m, 12) ∧
      ∃ v, m.encode = .ok v ∧ decode v = .ok (m, v.length) ∧ v.length < 12 := by
  have read : decode [1, 0xf2, 0, 8, 0x40, 0, 1, 9, 0x16, 0, 1, 7] =
      .ok ({ cookie := some [7] }, 12) := by
    have declared : Flags.ofByte 0xf2 = ⟨false, true, false⟩ := by decide
    simp [decode_of_header, decodeTlvs_eq, absorbAll, absorb, connectType, cookieType, errorType,
      empty, flags, declared, maxCookieLength]
  have cookie : Splits (0x16 :: 0 :: 1 :: ([7] ++ [])) [⟨0x16, [7]⟩] := .cons (by decide) .nil
  have region : Splits (0x40 :: 0 :: 1 :: ([9] ++ [0x16, 0, 1, 7])) [⟨0x40, [9]⟩, ⟨0x16, [7]⟩] :=
    .cons (by decide) cookie
  have laid : LaidOut [1, 0xf2, 0, 8, 0x40, 0, 1, 9, 0x16, 0, 1, 7] 12 0xf2
      [⟨0x40, [9]⟩, ⟨0x16, [7]⟩] := ⟨0, 8, _, rfl, rfl, by decide, region⟩
  obtain ⟨v, written, again, shorter, -, spelled, -⟩ := reencode_canonical read
  have unknown : ¬ v.length = 12 := by
    rw [(spelled _ _ laid).1]
    decide
  exact ⟨read, v, written, again, by omega⟩

end Message

end TransportConverter
