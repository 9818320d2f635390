import TransportConverter.Message.Encoding
/-!
# Which messages can be written

A message can be written when it is `Message.Valid`; whether it is depends on two of its fields only,
since no valid message is too long for its length field (`Message.tlvLength_le`). Written into room
enough, it is its `wire` form and nothing else.
-/
namespace TransportConverter

namespace Message

/-- A message that makes sense: it does not ask for a destination and report a failure at once, and
its cookie, if any, has a proper length. -/
structure Valid (m : Message) : Prop where
  exclusive : ¬ (m.connect.isSome ∧ m.error.isSome)
  cookie_length : ∀ cookie, m.cookie = some cookie → 1 ≤ cookie.length ∧ cookie.length ≤ 256

/-- The test that refuses a cookie, on either side. -/
theorem cookie_refused_iff {cookie : Bytes} :
    (cookie.isEmpty || decide (maxCookieLength < cookie.length)) = true ↔
      ¬ (1 ≤ cookie.length ∧ cookie.length ≤ 256) := by
  rw [Bool.or_eq_true, List.isEmpty_iff, ← List.length_eq_zero_iff, decide_eq_true_eq,
    maxCookieLength]
  omega

theorem tlvLength_le {m : Message} (h : m.Valid) : m.tlvLength ≤ 284 := by
  obtain ⟨connect, cookie, error⟩ := m
  have length : ∀ c, cookie = some c → c.length ≤ 256 := fun c hc => (h.cookie_length c hc).2
  cases cookie with
  | none =>
    cases connect <;> cases error <;>
      simp [tlvLength, tlvs, Tlv.valueLength, tlvHeaderLength, connectValueLength, errorValueLength]
  | some c =>
    have := length c rfl
    cases connect <;> cases error <;>
      simp [tlvLength, tlvs, Tlv.valueLength, tlvHeaderLength, connectValueLength,
        errorValueLength] <;> omega

theorem valueLength_le {m : Message} (h : m.Valid) {tlv : Tlv} (mem : tlv ∈ m.tlvs) :
    tlv.valueLength ≤ 256 := by
  simp only [tlvs, List.mem_append, Option.mem_toList, Option.map_eq_some_iff] at mem
  obtain (⟨_, -, rfl⟩ | ⟨c, set, rfl⟩) | ⟨_, -, rfl⟩ := mem
  · simp [Tlv.valueLength, connectValueLength]
  · exact (h.cookie_length c set).2
  · simp [Tlv.valueLength, errorValueLength]

theorem check_eq_ok_iff {m : Message} : m.check = .ok () ↔ m.Valid := by
  constructor
  · intro h
    unfold check at h
    split at h
    · cases h
    rename_i exclusive
    split at h
    · cases h
    rename_i proper
    refine ⟨by simpa using exclusive, fun cookie set => ?_⟩
    rw [set, Option.any_some, cookie_refused_iff, Decidable.not_not] at proper
    exact proper
  · intro h
    have exclusive : ¬ (m.connect.isSome && m.error.isSome) = true := by simpa using h.exclusive
    have proper : ¬ (m.cookie.any fun cookie =>
        cookie.isEmpty || decide (maxCookieLength < cookie.length)) = true := by
      cases set : m.cookie with
      | none => simp
      | some c =>
        rw [Option.any_some, cookie_refused_iff, Decidable.not_not]
        exact h.cookie_length c set
    have short : ¬ UInt16.size ≤ m.tlvLength := by
      have := tlvLength_le h
      simp only [UInt16.size]
      omega
    rw [check, if_neg exclusive, if_neg proper, if_neg short]

theorem encodeInto_eq (m : Message) (buffer : Bytes) : m.encodeInto buffer =
    match m.check with
    | .error e => .error e
    | .ok () =>
      if buffer.length < m.encodedLength then
        .error (.bufferTooSmall m.encodedLength buffer.length)
      else .ok (m.encodedLength, m.wire ++ buffer.drop m.wire.length) := by
  unfold encodeInto
  cases m.check with
  | error e => rfl
  | ok u =>
    by_cases room : buffer.length < m.encodedLength
    · simp only [room, if_true]
      rfl
    · simp only [room, if_false]
      rfl

/-- With room enough, what is written at the front of a buffer is the wire form. -/
theorem take_encodeInto {m : Message} {buffer : Bytes}
    (room : m.Valid → m.encodedLength ≤ buffer.length) :
    (do let (written, after) ← m.encodeInto buffer; return after.take written) =
      m.check.map fun _ => m.wire := by
  rw [encodeInto_eq]
  cases checked : m.check with
  | error e => rfl
  | ok u =>
    have fits := room (check_eq_ok_iff.1 checked)
    simp only [if_neg (Nat.not_lt_of_le fits)]
    show Except.ok (List.take m.encodedLength _) = Except.ok m.wire
    rw [← length_wire, List.take_left]

/-- What is written depends on the message alone. -/
theorem encode_eq (m : Message) : m.encode = m.check.map fun _ => m.wire :=
  take_encodeInto (by simp)

theorem encode_of_valid {m : Message} (h : m.Valid) : m.encode = .ok m.wire := by
  rw [encode_eq, check_eq_ok_iff.2 h]
  rfl

end Message

end TransportConverter
