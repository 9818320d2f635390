import TransportConverter.Proofs.Message.RoundTrip
/-!
# Writing over a buffer

A message is written piece by piece over the front of a buffer that somebody else owns. The bytes that
the message takes are set aside before the first piece is written, and a writer that came to their end
too early would have nowhere to write (`Cursor.put?`).

The main result is `Message.overwrite_exact`: **the pieces fill the bytes set aside, neither more nor
less**, so that writing leaves the rest of the buffer alone, and a message that is refused leaves all of
it alone. `Message.Objection` says which of several reasons a refusal gives. It rests on the one sum of
sizes (`Tlv.flatten_pieces`, `Message.flatten_pieces`), against which the header and the bytes set aside
are measured.
-/
namespace TransportConverter

/-! ## A writer and its pieces -/

/-- A run of bytes that is written over from its front. -/
structure Cursor where
  /-- What has been written. -/
  written : Bytes := []
  /-- What is still as it was. -/
  ahead : Bytes
  deriving DecidableEq, Repr

namespace Cursor

/-- Writes over the next bytes. There have to be enough of them. -/
def put? (c : Cursor) (piece : Bytes) : Option Cursor :=
  if piece.length ≤ c.ahead.length then
    some ⟨c.written ++ piece, c.ahead.drop piece.length⟩
  else none

/-- All bytes, whether they have been written over or not. -/
def bytes (c : Cursor) : Bytes := c.written ++ c.ahead

/-- Pieces that fit as a whole fit one by one. -/
theorem foldlM_put? (c : Cursor) (pieces : List Bytes)
    (fits : pieces.flatten.length ≤ c.ahead.length) : pieces.foldlM put? c =
      some ⟨c.written ++ pieces.flatten, c.ahead.drop pieces.flatten.length⟩ := by
  induction pieces generalizing c with
  | nil => simp
  | cons piece pieces ih =>
    rw [List.flatten_cons, List.length_append] at fits
    have first : c.put? piece = some ⟨c.written ++ piece, c.ahead.drop piece.length⟩ :=
      if_pos (by omega)
    have others : pieces.flatten.length ≤ (c.ahead.drop piece.length).length := by
      rw [List.length_drop]
      omega
    rw [List.foldlM_cons, first]
    show pieces.foldlM put? _ = _
    rw [ih _ others, List.flatten_cons, List.append_assoc, List.drop_drop, List.length_append]

end Cursor

namespace Tlv

/-- A record as it is written, piece by piece. -/
def pieces (tlv : Tlv) : List Bytes :=
  [tlv.kind] :: Word.toBytes (.ofNat tlv.valueLength) ::
    match tlv with
    | connect destination => [destination.ip.toWire, Word.toBytes destination.port]
    | cookie value => [value]
    | error code => [[code.code]]

theorem flatten_pieces (tlv : Tlv) : tlv.pieces.flatten = tlv.wire := by
  cases tlv <;> simp [pieces, wire, value]

end Tlv

namespace Message

/-- A message as it is written, piece by piece. -/
def pieces (m : Message) : List Bytes :=
  [protocolVersion] :: [m.flags.toByte] ::
    Word.toBytes (.ofNat (m.encodedLength - headerLength)) :: m.tlvs.flatMap Tlv.pieces

theorem flatten_pieces (m : Message) : m.pieces.flatten = m.wire := by
  have records : (m.tlvs.flatMap Tlv.pieces).flatten = m.tlvs.flatMap Tlv.wire := by
    rw [List.flatMap, List.flatten_flatten, List.map_map, List.flatMap]
    exact congrArg _ (List.map_congr_left fun tlv _ => tlv.flatten_pieces)
  simp [pieces, wire, records]

/-- Writes a message over the front of a buffer. Whatever is answered, the buffer is there afterwards;
there is nothing where a piece does not fit what was set aside. -/
def overwrite? (m : Message) (buffer : Bytes) : Option (Except EncodeError Nat × Bytes) :=
  match m.check with
  | .error e => some (.error e, buffer)
  | .ok () =>
    let needed := m.encodedLength
    if buffer.length < needed then some (.error (.bufferTooSmall needed buffer.length), buffer)
    else do
      let done ← m.pieces.foldlM Cursor.put? { ahead := buffer.take needed }
      return (.ok needed, done.bytes ++ buffer.drop needed)

/-! ## What comes of it -/

/-- The pieces of a message fill what is set aside for them. -/
theorem fill_window {m : Message} {buffer : Bytes} (room : m.encodedLength ≤ buffer.length) :
    m.pieces.foldlM Cursor.put? { ahead := buffer.take m.encodedLength } =
      some ⟨m.wire, []⟩ := by
  have window : (buffer.take m.encodedLength).length = m.wire.length := by
    rw [List.length_take_of_le room, length_wire]
  rw [Cursor.foldlM_put?, flatten_pieces]
  · rw [← window, List.drop_length, List.nil_append]
  · exact Nat.le_of_eq (by rw [flatten_pieces, window])

/-- Written piece by piece or at once, a message leaves the same buffer, and the pieces always fit. -/
theorem overwrite?_eq (m : Message) (buffer : Bytes) : m.overwrite? buffer =
    some (match m.encodeInto buffer with
      | .ok (written, after) => (.ok written, after)
      | .error e => (.error e, buffer)) := by
  rw [encodeInto_eq, overwrite?]
  cases m.check with
  | error e => rfl
  | ok u =>
    by_cases short : buffer.length < m.encodedLength
    · simp only [if_pos short]
    · simp only [if_neg short, fill_window (Nat.le_of_not_lt short), length_wire]
      simp [Cursor.bytes]

/-! ## Why a message is refused -/

/-- The first reason there is against writing a message over `room` bytes. -/
inductive Objection (m : Message) (room : Nat) : EncodeError → Prop
  | conflict (both : m.connect.isSome ∧ m.error.isSome) : Objection m room .conflictingTlvs
  | cookie {cookie : Bytes} (exclusive : ¬ (m.connect.isSome ∧ m.error.isSome))
      (set : m.cookie = some cookie) (improper : ¬ (1 ≤ cookie.length ∧ cookie.length ≤ 256)) :
      Objection m room (.invalidCookieLength cookie.length)
  | room (valid : m.Valid) (short : room < m.encodedLength) :
      Objection m room (.bufferTooSmall m.encodedLength room)

variable {m : Message} {room : Nat} {e : EncodeError}

/-- Where there is a reason there is one only. -/
theorem Objection.unique {e' : EncodeError} (first : m.Objection room e)
    (second : m.Objection room e') : e = e' := by
  cases first with
  | conflict both =>
    cases second with
    | conflict => rfl
    | cookie exclusive => exact absurd both exclusive
    | room valid => exact absurd both valid.exclusive
  | @cookie cookie exclusive set improper =>
    cases second with
    | conflict both => exact absurd both exclusive
    | cookie _ set' =>
      rw [set] at set'
      cases set'
      rfl
    | room valid => exact absurd (valid.cookie_length cookie set) improper
  | room valid short =>
    cases second with
    | conflict both => exact absurd both valid.exclusive
    | cookie _ set improper => exact absurd (valid.cookie_length _ set) improper
    | room => rfl

/-- Where the check refuses a message, it gives the reason; no message is refused for its size. -/
theorem objection_of_check (refused : m.check = .error e) (room : Nat) : m.Objection room e := by
  unfold check at refused
  split at refused
  · rename_i both
    cases refused
    exact .conflict (by simpa using both)
  · rename_i calm
    have exclusive : ¬ (m.connect.isSome ∧ m.error.isSome) := by simpa using calm
    split at refused
    · rename_i improper
      cases refused
      cases set : m.cookie with
      | none => simp [set] at improper
      | some cookie =>
        rw [set, Option.any_some, cookie_refused_iff] at improper
        exact .cookie exclusive set improper
    · rename_i proper
      split at refused
      · rename_i large
        -- what passes the other two tests is valid, and no valid message is that long
        have valid : m.Valid := by
          refine ⟨exclusive, fun cookie set => ?_⟩
          rw [set, Option.any_some, cookie_refused_iff, Decidable.not_not] at proper
          exact proper
        have := tlvLength_le valid
        simp only [UInt16.size] at large
        omega
      · cases refused

/-- A message is written where it is valid and there is room for it, and nothing is written behind
it. -/
theorem encodeInto_eq_ok_iff {buffer : Bytes} {written : Nat} {after : Bytes} :
    m.encodeInto buffer = .ok (written, after) ↔
      (m.Valid ∧ m.encodedLength ≤ buffer.length) ∧ written = m.encodedLength ∧
        after = m.wire ++ buffer.drop m.encodedLength := by
  rw [encodeInto_eq, ← check_eq_ok_iff]
  cases m.check with
  | error e => simp
  | ok u =>
    by_cases short : buffer.length < m.encodedLength
    · simp [short, Nat.not_le_of_lt short]
    · simp [short, Nat.le_of_not_lt short, length_wire, eq_comm]

/-- There is no reason against a valid message that there is room for. -/
theorem Objection.refuses (objection : m.Objection room e) :
    ¬ (m.Valid ∧ m.encodedLength ≤ room) := by
  rintro ⟨valid, enough⟩
  cases objection with
  | conflict both => exact valid.exclusive both
  | cookie _ set improper => exact improper (valid.cookie_length _ set)
  | room _ short => exact Nat.not_le_of_lt short enough

/-- **Writing is refused for the first reason there is, and for nothing else.** -/
theorem encodeInto_eq_error_iff {buffer : Bytes} :
    m.encodeInto buffer = .error e ↔ m.Objection buffer.length e := by
  have given {e : EncodeError} (refused : m.encodeInto buffer = .error e) :
      m.Objection buffer.length e := by
    rw [encodeInto_eq] at refused
    cases checked : m.check with
    | error e' =>
      rw [checked] at refused
      cases refused
      exact objection_of_check checked _
    | ok u =>
      simp only [checked] at refused
      split at refused
      · rename_i short
        cases refused
        exact .room (check_eq_ok_iff.1 checked) short
      · cases refused
  refine ⟨given, fun objection => ?_⟩
  cases answered : m.encodeInto buffer with
  | error e' => rw [objection.unique (given answered)]
  | ok done => exact absurd (encodeInto_eq_ok_iff.1 answered).1 objection.refuses

theorem encode_eq_ok_iff {v : Bytes} : m.encode = .ok v ↔ m.Valid ∧ v = m.wire := by
  rw [encode_eq, ← check_eq_ok_iff]
  cases m.check with
  | error e => simp [Except.map]
  | ok u => simp [Except.map, eq_comm]

/-- In a buffer of its own a message always has room. -/
theorem encode_eq_error_iff : m.encode = .error e ↔ m.Objection m.encodedLength e := by
  have refused := @encodeInto_eq_error_iff m e (List.replicate m.encodedLength 0)
  rw [List.length_replicate] at refused
  rw [← refused, encode]
  cases m.encodeInto (List.replicate m.encodedLength 0) with
  | error e' => simp [bind, Except.bind]
  | ok done => exact iff_of_false nofun nofun

/-! ## What the bytes of a message say of its sizes -/

/-- The bytes are a header and records, their lengths are what the header and each record say of
them, and none of the high bits of the flag byte is set. -/
def Measured (m : Message) (bytes : Bytes) : Prop :=
  ∃ hi lo region, bytes = 1 :: m.flags.toByte :: hi :: lo :: region ∧
    (Word.ofBytes hi lo).toNat = region.length ∧
    RawRecord.Splits region (m.tlvs.map Tlv.raw) ∧ m.flags.toByte.toNat < 8

theorem toByte_lt (flags : Flags) : flags.toByte.toNat < 8 := by
  obtain ⟨connect, cookie, error⟩ := flags
  cases connect <;> cases cookie <;> cases error <;> decide

theorem measured_wire (valid : m.Valid) : m.Measured m.wire := by
  refine ⟨_, _, m.tlvs.flatMap Tlv.wire, rfl, ?_, ?_, toByte_lt m.flags⟩
  · rw [declared_length valid, length_records]
  · exact Tlv.splits_flatMap_wire fun tlv mem => valueLength_le valid mem

/-! ## All of it -/

/-- What becomes of a buffer that a message is to be written over. -/
structure Overwritten (m : Message) (buffer : Bytes) (answer : Except EncodeError Nat)
    (after : Bytes) : Prop where
  written_iff : (∃ written, answer = .ok written) ↔ m.Valid ∧ m.encodedLength ≤ buffer.length
  refused_iff : ∀ e, answer = .error e ↔ m.Objection buffer.length e
  /-- The front is the message, as it is written into a buffer of its own. -/
  front : ∀ written, answer = .ok written → written = m.encodedLength ∧
    m.encode = .ok (after.take written) ∧ m.Measured (after.take written)
  /-- What is behind the message stays. -/
  rest : ∀ written, answer = .ok written → after.drop written = buffer.drop written
  /-- A refusal leaves all as it was. -/
  untouched : ∀ e, answer = .error e → after = buffer
  length : after.length = buffer.length

theorem overwritten_ok {buffer : Bytes} (valid : m.Valid)
    (enough : m.encodedLength ≤ buffer.length) :
    m.Overwritten buffer (.ok m.encodedLength) (m.wire ++ buffer.drop m.encodedLength) where
  written_iff := iff_of_true ⟨_, rfl⟩ ⟨valid, enough⟩
  refused_iff e := iff_of_false nofun fun objection => objection.refuses ⟨valid, enough⟩
  front := by
    rintro _ ⟨⟩
    rw [← length_wire, List.take_left]
    exact ⟨rfl, encode_of_valid valid, measured_wire valid⟩
  rest := by
    rintro _ ⟨⟩
    exact List.drop_left' (length_wire m)
  untouched := nofun
  length := by
    rw [List.length_append, List.length_drop, length_wire]
    omega

theorem overwritten_error {buffer : Bytes} (objection : m.Objection buffer.length e) :
    m.Overwritten buffer (.error e) buffer where
  written_iff := iff_of_false nofun objection.refuses
  refused_iff e' := by
    rw [Except.error.injEq]
    exact ⟨fun same => same ▸ objection, objection.unique⟩
  front := nofun
  rest := nofun
  untouched _ _ := rfl
  length := rfl

/-- **Writing over a buffer is exact, or does nothing.** The pieces always fit what is set aside for
them. A valid message with room enough takes as many bytes as it says, true in its header and in each
record, and no byte behind them is touched; any other is refused for the first reason there is, which is
never its size, and the buffer is as it was. In a buffer of its own a message always has room. -/
theorem overwrite_exact (m : Message) (buffer : Bytes) :
    (∃ answer after, m.overwrite? buffer = some (answer, after) ∧
      m.encodeInto buffer = answer.map (·, after) ∧ m.Overwritten buffer answer after ∧
      ∀ length, answer ≠ .error (.messageTooLarge length)) ∧
    ((∃ v, m.encode = .ok v) ↔ m.Valid) ∧
    (∀ e, m.encode = .error e ↔ m.Objection m.encodedLength e) ∧
    ∀ needed available, m.encode ≠ .error (.bufferTooSmall needed available) := by
  refine ⟨?_, ?_, fun e => encode_eq_error_iff, fun needed available refused => ?_⟩
  · rw [overwrite?_eq]
    cases answered : m.encodeInto buffer with
    | ok done =>
      obtain ⟨written, after⟩ := done
      obtain ⟨⟨valid, enough⟩, rfl, rfl⟩ := encodeInto_eq_ok_iff.1 answered
      exact ⟨_, _, rfl, rfl, overwritten_ok valid enough, nofun⟩
    | error e =>
      have objection := encodeInto_eq_error_iff.1 answered
      refine ⟨_, _, rfl, rfl, overwritten_error objection, ?_⟩
      rintro length ⟨⟩
      cases objection
  · simp only [encode_eq_ok_iff]
    exact ⟨fun ⟨_, valid, _⟩ => valid, fun valid => ⟨_, valid, rfl⟩⟩
  · cases encode_eq_error_iff.1 refused with
    | room _ short => exact Nat.lt_irrefl _ short

end Message

end TransportConverter
