import TransportConverter.Proofs.Message.Framing
/-!
# Waiting for more bytes

`DecodeError.truncated` asks for more bytes and no other answer can change by more of them. Which
bytes are cut short is said here from their first four alone (`CutShort`): the header is not there,
or it is of the one version and declares more than has come.

The main result is `Message.decode_stable`: **bytes are truncated exactly when they are cut short,
every other answer stands whatever comes behind, and of a message that is read each shorter part is
truncated**. It rests on where an error can come from: the records are read from the declared bytes
only, and what is found wrong with one of them (`absorb_error`) or with a region of them
(`absorbAll_error`) is an error of the records themselves.
-/
namespace TransportConverter

/-- The error says what is wrong with the records of a message, and not with its header or with how
much of it has come. -/
def DecodeError.ofRecords : DecodeError → Bool
  | malformed _ | unsupportedLength .. => true
  | truncated .. | unsupportedVersion _ => false

namespace Message

/-- The header has not arrived, or it is of the one version and declares more bytes than there
are. -/
inductive CutShort : Bytes → Nat → Prop
  | header {bytes : Bytes} (short : bytes.length < 4) : CutShort bytes 4
  | records {flags hi lo : UInt8} {rest : Bytes}
      (short : rest.length < hi.toNat * 256 + lo.toNat) :
      CutShort (1 :: flags :: hi :: lo :: rest) (4 + (hi.toNat * 256 + lo.toNat))

/-! ## What is wrong with records stays wrong -/

theorem absorb_error {m : Message} {kind : UInt8} {value : Bytes} {e : DecodeError}
    (refused : m.absorb kind value = .error e) : e.ofRecords = true := by
  revert refused
  by_cases reserved : kind = 0
  · simp only [absorb, reserved, if_true]
    rintro ⟨⟩
    rfl
  by_cases connect : kind = connectType
  · subst connect
    simp only [absorb, reserved, if_true, if_false]
    cases m.connect <;> cases readDestination? value <;> rintro ⟨⟩ <;> rfl
  by_cases cookie : kind = cookieType
  · subst cookie
    simp only [absorb, reserved, connect, if_true, if_false]
    cases m.cookie
    · by_cases refused : value.isEmpty || maxCookieLength < value.length
      · simp only [refused, if_true, Option.isSome_none, Bool.false_eq_true, if_false]
        rintro ⟨⟩
        rfl
      · simp [refused]
    · rintro ⟨⟩
      rfl
  by_cases error : kind = errorType
  · subst error
    simp only [absorb, reserved, connect, cookie, if_true, if_false]
    cases m.error
    · rcases value with _ | ⟨code, _ | ⟨second, rest⟩⟩ <;> rintro ⟨⟩ <;> rfl
    · rintro ⟨⟩
      rfl
  · simp [absorb, reserved, connect, cookie, error]

theorem absorbAll_error {m : Message} {region : Bytes} {e : DecodeError}
    (refused : m.absorbAll region = .error e) : e.ofRecords = true := by
  fun_induction absorbAll m region with
  | case1 => cases refused
  | case2 =>
    cases refused
    rfl
  | case3 m kind hi lo rest length value fits m₁ absorbed ih => exact ih refused
  | case4 m kind hi lo rest length value fits e absorbed =>
    cases refused
    exact absorb_error absorbed
  | case5 =>
    cases refused
    rfl

/-- Where no declared bytes are missing, only the records can be wrong. -/
theorem decodeTlvs_error {bytes : Bytes} {declared : Nat} {e : DecodeError}
    (enough : declared ≤ bytes.length) (refused : decodeTlvs bytes declared = .error e) :
    e.ofRecords = true := by
  rw [decodeTlvs_eq, if_neg (by omega)] at refused
  split at refused
  · rename_i stopped
    cases refused
    exact absorbAll_error stopped
  · split at refused <;> cases refused
    rfl

/-- Records are read from the declared bytes only. -/
theorem decodeTlvs_append {bytes : Bytes} {declared : Nat} (enough : declared ≤ bytes.length)
    (tail : Bytes) : decodeTlvs (bytes ++ tail) declared = decodeTlvs bytes declared := by
  have longer : declared ≤ (bytes ++ tail).length := by
    rw [List.length_append]
    omega
  rw [decodeTlvs_eq, decodeTlvs_eq, if_neg (by omega), if_neg (by omega),
    List.take_append_of_le_length enough]

/-! ## Which bytes are truncated -/

/-- Four bytes are a header unless the version is a foreign one. -/
theorem header_cases (bytes : Bytes) (long : 4 ≤ bytes.length) :
    (∃ version, ∀ tail, decode (bytes ++ tail) = .error (.unsupportedVersion version)) ∨
      ∃ flags hi lo rest, bytes = 1 :: flags :: hi :: lo :: rest := by
  match bytes, long with
  | version :: flags :: hi :: lo :: rest, _ =>
    by_cases supported : version = 1
    · exact .inr ⟨flags, hi, lo, rest, by rw [supported]⟩
    · refine .inl ⟨version, fun tail => ?_⟩
      rw [decode_eq]
      simp [Header.decode, protocolVersion, supported]

section Header
variable (flags hi lo : UInt8) (rest : Bytes)

theorem decode_of_header : decode (1 :: flags :: hi :: lo :: rest) =
    if rest.length < hi.toNat * 256 + lo.toNat then
      .error (.truncated (4 + (hi.toNat * 256 + lo.toNat)) (rest.length + 4))
    else match decodeTlvs rest (hi.toNat * 256 + lo.toNat) with
      | .error e => .error e
      | .ok m =>
        if m.flags ≠ .ofByte flags then .error (.malformed (.flagMismatch (.ofByte flags) m.flags))
        else .ok (m, 4 + (hi.toNat * 256 + lo.toNat)) := by
  have opens : Header.decode (1 :: flags :: hi :: lo :: rest) =
      .ok ⟨.ofByte flags, Word.ofBytes hi lo⟩ := rfl
  rw [decode_eq]
  simp only [opens, Header.messageLength, headerLength, Word.toNat_ofBytes, List.length_cons,
    List.drop_succ_cons, List.drop_zero]
  by_cases short : rest.length < hi.toNat * 256 + lo.toNat
  · rw [if_pos short, if_pos (by omega)]
  · exact (if_neg (by omega)).trans (if_neg short).symm

/-- What is behind the declared bytes is not looked at, also where they are no message. -/
theorem decode_of_header_append (enough : hi.toNat * 256 + lo.toNat ≤ rest.length) (tail : Bytes) :
    decode (1 :: flags :: hi :: lo :: (rest ++ tail)) =
      decode (1 :: flags :: hi :: lo :: rest) := by
  have longer : hi.toNat * 256 + lo.toNat ≤ (rest ++ tail).length := by
    rw [List.length_append]
    omega
  rw [decode_of_header, decode_of_header, if_neg (by omega), if_neg (by omega),
    decodeTlvs_append enough]

theorem decode_of_header_error {e : DecodeError} (enough : hi.toNat * 256 + lo.toNat ≤ rest.length)
    (refused : decode (1 :: flags :: hi :: lo :: rest) = .error e) : e.ofRecords = true := by
  rw [decode_of_header, if_neg (by omega)] at refused
  split at refused
  · rename_i stopped
    cases refused
    exact decodeTlvs_error enough stopped
  · split at refused <;> cases refused
    rfl

end Header

variable {bytes : Bytes} {needed : Nat}

theorem CutShort.length_lt (short : CutShort bytes needed) : bytes.length < needed := by
  cases short with
  | header short => exact short
  | records short =>
    simp only [List.length_cons]
    omega

theorem CutShort.truncated (short : CutShort bytes needed) :
    decode bytes = .error (.truncated needed bytes.length) := by
  cases short with
  | header short =>
    rw [decode_eq]
    match bytes, short with
    | [], _ | [_], _ | [_, _], _ | [_, _, _], _ => rfl
  | records short => rw [decode_of_header, if_pos short, List.length_cons]; simp

/-- Bytes that are not cut short are answered for good. -/
theorem whole_or_cutShort (bytes : Bytes) : (∃ needed, CutShort bytes needed) ∨
    (∀ needed available, decode bytes ≠ .error (.truncated needed available)) ∧
      ∀ tail, decode (bytes ++ tail) = decode bytes := by
  by_cases long : bytes.length < 4
  · exact .inl ⟨4, .header long⟩
  rcases header_cases bytes (by omega) with ⟨version, foreign⟩ | ⟨flags, hi, lo, rest, rfl⟩
  · have alone := foreign []
    rw [List.append_nil] at alone
    refine .inr ⟨fun needed available h => ?_, fun tail => ?_⟩
    · simp [alone] at h
    · rw [foreign, alone]
  · by_cases short : rest.length < hi.toNat * 256 + lo.toNat
    · exact .inl ⟨_, .records short⟩
    · have enough := Nat.le_of_not_lt short
      refine .inr ⟨fun needed available h => ?_, decode_of_header_append flags hi lo rest enough⟩
      have wrong := decode_of_header_error flags hi lo rest enough h
      cases wrong

theorem truncated_iff_cutShort (available : Nat) :
    decode bytes = .error (.truncated needed available) ↔
      CutShort bytes needed ∧ available = bytes.length := by
  constructor
  · intro truncated
    rcases whole_or_cutShort bytes with ⟨n, short⟩ | ⟨whole, -⟩
    · have same := short.truncated.symm.trans truncated
      simp only [Except.error.injEq, DecodeError.truncated.injEq] at same
      obtain ⟨rfl, rfl⟩ := same
      exact ⟨short, rfl⟩
    · exact absurd truncated (whole needed available)
  · rintro ⟨short, rfl⟩
    exact short.truncated

/-! ## Parts of a message -/

/-- No part of a stream asks for more than the message at the front of it takes. -/
theorem CutShort.needed_le {m : Message} {used : Nat} {part : Bytes}
    (short : CutShort part needed) (read : decode bytes = .ok (m, used))
    (same : part <+: bytes ∨ bytes <+: part) : needed ≤ used := by
  obtain ⟨flags, hi, lo, rest, records, rfl, rfl, -⟩ := spells_of_decode read
  rw [Word.toNat_ofBytes]
  cases short with
  | header => omega
  | records =>
    simp only [List.cons_prefix_cons] at same
    obtain ⟨-, -, rfl, rfl, -⟩ | ⟨-, -, rfl, rfl, -⟩ := same <;> exact Nat.le_refl _

/-- Of bytes that begin with a message, every shorter part is cut short, and every other part or
continuation is read as that message. -/
theorem decode_of_comparable {m : Message} {used : Nat} {part : Bytes}
    (read : decode bytes = .ok (m, used)) (same : part <+: bytes ∨ bytes <+: part) :
    if part.length < used then
      ∃ needed, needed ≤ used ∧ decode part = .error (.truncated needed part.length)
    else decode part = .ok (m, used) := by
  rcases whole_or_cutShort part with ⟨needed, short⟩ | ⟨-, stands⟩
  · have within := short.needed_le read same
    have missing := short.length_lt
    rw [if_pos (by omega)]
    exact ⟨needed, within, short.truncated⟩
  · have settled : decode part = .ok (m, used) := by
      rcases same with ⟨tail, rfl⟩ | beyond
      · rw [← stands tail, read]
      · exact decode_of_isPrefix read beyond
    obtain ⟨header, -, -, enough⟩ := messageLength_of_decode settled
    rw [if_neg (by omega)]
    exact settled

/-- **An answer stands unless it asks for more.** Bytes are truncated exactly when they are cut
short of a header or of what it declares; any other answer, an error included, is that of every
continuation; and where a message is read, what is shorter than it is truncated, and nothing longer
is another message. -/
theorem decode_stable (bytes : Bytes) :
    (∀ needed available, decode bytes = .error (.truncated needed available) ↔
      CutShort bytes needed ∧ available = bytes.length) ∧
    ((∀ needed available, decode bytes ≠ .error (.truncated needed available)) →
      ∀ tail, decode (bytes ++ tail) = decode bytes) ∧
    (∀ m used, decode bytes = .ok (m, used) → ∀ part, part <+: bytes ∨ bytes <+: part →
      if part.length < used then
        ∃ needed, needed ≤ used ∧ decode part = .error (.truncated needed part.length)
      else decode part = .ok (m, used)) := by
  refine ⟨fun needed available => truncated_iff_cutShort available, fun whole => ?_,
    fun m used read part same => decode_of_comparable read same⟩
  rcases whole_or_cutShort bytes with ⟨needed, short⟩ | ⟨-, stands⟩
  · exact absurd short.truncated (whole needed bytes.length)
  · exact stands

/-- A message that reports a failure, and a cookie record that does not keep to its length: neither
answer asks for more. -/
theorem decode_stable_failure :
    decode [1, 4, 0, 4, 0x1e, 0, 1, 2] = .ok ({ error := some .unsupportedMessage }, 8) ∧
    (∀ part, part <+: [1, 4, 0, 4, 0x1e, 0, 1, 2] ∨ [1, 4, 0, 4, 0x1e, 0, 1, 2] <+: part →
      if part.length < 8 then
        ∃ needed, needed ≤ 8 ∧ decode part = .error (.truncated needed part.length)
      else decode part = .ok ({ error := some .unsupportedMessage }, 8)) ∧
    ∀ tail, decode ([1, 2, 0, 3, 0x16, 0, 9] ++ tail) =
      .error (.malformed (.overrun 0x16 9 0)) := by
  have failure : decode [1, 4, 0, 4, 0x1e, 0, 1, 2] =
      .ok ({ error := some .unsupportedMessage }, 8) := by
    have code : ErrorCode.ofByte 2 = .unsupportedMessage := by decide
    have declared : Flags.ofByte 4 = ⟨false, false, true⟩ := by decide
    simp [decode_of_header, decodeTlvs_eq, absorbAll, absorb, connectType, cookieType, errorType,
      empty, flags, declared, code]
  have overrun : decode [1, 2, 0, 3, 0x16, 0, 9] = .error (.malformed (.overrun 0x16 9 0)) := by
    simp [decode_of_header, decodeTlvs_eq, absorbAll]
  refine ⟨failure, (decode_stable _).2.2 _ _ failure, ?_⟩
  rw [← overrun]
  refine (decode_stable _).2.1 ?_
  simp [overrun]

end Message

end TransportConverter
