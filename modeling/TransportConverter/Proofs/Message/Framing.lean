import Mathlib.Data.List.Infix
import TransportConverter.Proofs.Message.RoundTrip
/-!
# Where a message ends

A message is told from its own bytes: what arrives behind its header does not change how long it is
(`Header.decode_of_isPrefix`), and what arrives behind the message changes neither what it says nor
how many bytes it takes (`Message.decode_append`).
-/
namespace TransportConverter

namespace Header

variable {bytes bytes' : Bytes}

theorem decode_of_isPrefix (opens : bytes <+: bytes') (whole : headerLength ≤ bytes.length) :
    decode bytes' = decode bytes := by
  obtain ⟨tail, rfl⟩ := opens
  match bytes, whole with
  | version :: flags :: hi :: lo :: rest, _ => rfl

theorem headerLength_le_messageLength (header : Header) : headerLength ≤ header.messageLength :=
  Nat.le_add_right _ _

end Header

namespace Message

variable {bytes : Bytes} {m : Message} {used : Nat}

/-- A message takes the bytes that its header declares, and they are all there. -/
theorem messageLength_of_decode (read : decode bytes = .ok (m, used)) :
    ∃ header, Header.decode bytes = .ok header ∧ header.messageLength = used ∧
      used ≤ bytes.length := by
  rw [decode_eq] at read
  split at read
  · cases read
  rename_i header opens
  split at read
  · cases read
  rename_i whole
  split at read
  · cases read
  split at read
  · cases read
  cases read
  exact ⟨header, opens, rfl, Nat.le_of_not_lt whole⟩

/-- What stands behind a message is not looked at. -/
theorem decode_append (read : decode bytes = .ok (m, used)) (tail : Bytes) :
    decode (bytes ++ tail) = .ok (m, used) := by
  obtain ⟨flags, hi, lo, rest, records, rfl, rfl, whole, splits, admitted, said⟩ :=
    spells_of_decode read
  have enough : (Word.ofBytes hi lo).toNat ≤ rest.length := by
    simp only [List.length_cons] at whole
    omega
  refine decode_of_spells ⟨flags, hi, lo, rest ++ tail, records, rfl, rfl, ?_, ?_, admitted, said⟩
  · rw [List.length_append]
    exact Nat.le_add_right_of_le whole
  · rwa [List.take_append_of_le_length enough]

theorem decode_of_isPrefix {bytes' : Bytes} (read : decode bytes = .ok (m, used))
    (opens : bytes <+: bytes') : decode bytes' = .ok (m, used) := by
  obtain ⟨tail, rfl⟩ := opens
  exact decode_append read tail

/-- The header of what was written declares what was written. -/
theorem header_of_wire (valid : m.Valid) (tail : Bytes) :
    ∃ header, Header.decode (m.wire ++ tail) = .ok header ∧
      header.messageLength = m.wire.length := by
  obtain ⟨header, opens, length, -⟩ :=
    messageLength_of_decode (decode_of_spells (spells_wire valid tail))
  exact ⟨header, opens, length⟩

/-! ## A message that arrives in pieces -/

/-- The bytes are a part of what is written for `m`, or that and something behind it. -/
def Carried (m : Message) (bytes : Bytes) : Prop := bytes <+: m.wire ∨ m.wire <+: bytes

namespace Carried

variable {bytes' : Bytes}

theorem isPrefix (carried : m.Carried bytes) (part : bytes' <+: bytes) : m.Carried bytes' := by
  rcases carried with under | beyond
  · exact .inl (part.trans under)
  · exact List.prefix_or_prefix_of_prefix part beyond

/-- The header tells how long the message is, as soon as it is there. -/
theorem header (carried : m.Carried bytes) (valid : m.Valid) (long : headerLength ≤ bytes.length) :
    ∃ header, Header.decode bytes = .ok header ∧ header.messageLength = m.wire.length := by
  obtain ⟨header, opens, length⟩ := header_of_wire valid []
  rw [List.append_nil] at opens
  refine ⟨header, ?_, length⟩
  rcases carried with under | beyond
  · rw [← opens, Header.decode_of_isPrefix under long]
  · rw [← opens]
    refine Header.decode_of_isPrefix beyond ?_
    rw [← length]
    exact header.headerLength_le_messageLength

theorem eq_wire (carried : m.Carried bytes) (length : bytes.length = m.wire.length) :
    bytes = m.wire := by
  rcases carried with under | beyond
  · exact under.eq_of_length length
  · exact (beyond.eq_of_length length.symm).symm

end Carried

theorem decode_wire (valid : m.Valid) : decode m.wire = .ok (m.normal, m.wire.length) := by
  have := decode_of_spells (spells_wire valid [])
  rwa [List.append_nil] at this

end Message

end TransportConverter
