import TransportConverter.Message.Decoding
import TransportConverter.Proofs.Message.Writing
/-!
# The grammar of messages

Which bytes are a message is said here without reading them from the left: a header, and behind it
a region that is split into records (`RawRecord.Splits`), at most one of each known type and each of
a proper length (`RawRecord.Admitted`). What the message says is what those records say
(`RawRecord.Says`), whatever stands between them. `Message.decode` accepts exactly such bytes.

The reader meets the records one by one and has read a part of the message at each of them, so the
induction is on what a run of records adds to a message (`RawRecord.Adds`).
-/
namespace TransportConverter

/-- A record by its type and the bytes of its value, whether the type is known or not. -/
structure RawRecord where
  kind : UInt8
  value : Bytes
  deriving DecidableEq, Repr

namespace RawRecord

/-- A region is split into records: each is its type, the length of its value as a word, and a value
of that length, and nothing is left over. -/
inductive Splits : Bytes → List RawRecord → Prop
  | nil : Splits [] []
  | cons {kind hi lo : UInt8} {value region : Bytes} {records : List RawRecord}
      (fits : value.length = (Word.ofBytes hi lo).toNat) (rest : Splits region records) :
      Splits (kind :: hi :: lo :: (value ++ region)) (⟨kind, value⟩ :: records)

/-- The values of the records of one type, in their order. -/
def values (kind : UInt8) (records : List RawRecord) : List Bytes :=
  (records.filter fun r => r.kind = kind).map value

/-- The first record of a region takes what its length says, if there is as much. -/
theorem splits_cons_iff {kind hi lo : UInt8} {rest : Bytes} {records : List RawRecord} {n : Nat}
    (length : (Word.ofBytes hi lo).toNat = n) :
    Splits (kind :: hi :: lo :: rest) records ↔ n ≤ (rest.take n).length ∧
      ∃ others, records = ⟨kind, rest.take n⟩ :: others ∧ Splits (rest.drop n) others := by
  subst length
  constructor
  · intro h
    generalize whole : kind :: hi :: lo :: rest = region at h
    cases h with
    | nil => cases whole
    | @cons _ _ _ value region others fits splits =>
      simp only [List.cons.injEq] at whole
      obtain ⟨rfl, rfl, rfl, rfl⟩ := whole
      rw [← fits, List.take_left, List.drop_left]
      exact ⟨Nat.le_refl _, others, rfl, splits⟩
  · rintro ⟨fits, others, rfl, splits⟩
    have length := Nat.le_antisymm (List.length_take_le _ _) fits
    have whole : Splits (kind :: hi :: lo :: (rest.take _ ++ rest.drop _)) _ := .cons length splits
    rwa [List.take_append_drop] at whole

/-! ## What a value says -/

/-- Sixteen octets of an address and the two bytes of a port. -/
def NamesDestination (value : Bytes) (destination : SocketAddress) : Prop :=
  ∃ octets hi lo, ∃ h : octets.length = 16,
    value = octets ++ [hi, lo] ∧ destination = .ofIp (.ofWire octets h) (Word.ofBytes hi lo)

def IsCookie (value cookie : Bytes) : Prop :=
  cookie = value ∧ 1 ≤ value.length ∧ value.length ≤ 256

def NamesError (value : Bytes) (code : ErrorCode) : Prop :=
  ∃ byte, value = [byte] ∧ code = .ofByte byte

/-- A field of a message holds what the only record of its type says, or nothing where there is no
such record. -/
inductive Carries {α : Type} (Reads : Bytes → α → Prop) : List Bytes → Option α → Prop
  | absent : Carries Reads [] none
  | present {value : Bytes} {a : α} (reads : Reads value a) : Carries Reads [value] (some a)

section Carries
variable {α : Type} {Reads : Bytes → α → Prop} {values : List Bytes} {a : Option α}

theorem Carries.length_le (h : Carries Reads values a) : values.length ≤ 1 := by
  cases h <;> simp

theorem Carries.isSome (h : Carries Reads values a) : a.isSome = !values.isEmpty := by
  cases h <;> rfl

theorem Carries.exists_reads (h : Carries Reads values a) {value : Bytes}
    (mem : value ∈ values) : ∃ x, Reads value x := by
  cases h with
  | absent => cases mem
  | present reads =>
    rw [List.mem_singleton.1 mem]
    exact ⟨_, reads⟩

end Carries

theorem NamesDestination.length {value : Bytes} {destination : SocketAddress}
    (h : NamesDestination value destination) : value.length = 18 := by
  obtain ⟨octets, hi, lo, length, rfl, -⟩ := h
  simp [length]

theorem NamesError.length {value : Bytes} {code : ErrorCode} (h : NamesError value code) :
    value.length = 1 := by
  obtain ⟨byte, rfl, -⟩ := h
  rfl

/-! ## Which records make a message -/

/-- The records that may stand behind a header with the flag byte `flags`: destinations are of type
0x0a, cookies of type 0x16 and error codes of type 0x1e. -/
structure Admitted (flags : UInt8) (records : List RawRecord) : Prop where
  typed : ∀ r ∈ records, r.kind ≠ 0
  connects : (values 0x0a records).length ≤ 1
  connect_length : ∀ v ∈ values 0x0a records, v.length = 18
  cookies : (values 0x16 records).length ≤ 1
  cookie_length : ∀ v ∈ values 0x16 records, 1 ≤ v.length ∧ v.length ≤ 256
  errors : (values 0x1e records).length ≤ 1
  error_length : ∀ v ∈ values 0x1e records, v.length = 1
  exclusive : values 0x0a records = [] ∨ values 0x1e records = []
  connect_flag : flags.toNat.testBit 0 = !(values 0x0a records).isEmpty
  cookie_flag : flags.toNat.testBit 1 = !(values 0x16 records).isEmpty
  error_flag : flags.toNat.testBit 2 = !(values 0x1e records).isEmpty

/-- A message says what its records say. -/
structure Says (records : List RawRecord) (m : Message) : Prop where
  connect : Carries NamesDestination (values 0x0a records) m.connect
  cookie : Carries IsCookie (values 0x16 records) m.cookie
  error : Carries NamesError (values 0x1e records) m.error

/-! ## What records add to a message -/

/-- A field before and after records of its type: an empty one takes the value of one record, and
one that holds something takes none. -/
def Fills {α : Type} (Reads : Bytes → α → Prop) (before : Option α) (values : List Bytes)
    (after : Option α) : Prop :=
  values = [] ∧ after = before ∨
    before = none ∧ ∃ value x, values = [value] ∧ Reads value x ∧ after = some x

/-- A message before and after a run of records. -/
structure Adds (m : Message) (records : List RawRecord) (m' : Message) : Prop where
  typed : ∀ r ∈ records, r.kind ≠ 0
  connect : Fills NamesDestination m.connect (values connectType records) m'.connect
  cookie : Fills IsCookie m.cookie (values cookieType records) m'.cookie
  error : Fills NamesError m.error (values errorType records) m'.error

section Fills
variable {α : Type} {Reads : Bytes → α → Prop}

theorem fills_nil_iff {a b : Option α} : Fills Reads a [] b ↔ b = a := by
  simp [Fills]

theorem fills_singleton_iff {a b : Option α} {value : Bytes} :
    Fills Reads a [value] b ↔ a = none ∧ ∃ x, Reads value x ∧ b = some x := by
  simp [Fills]

theorem fills_none_iff {values : List Bytes} {b : Option α} :
    Fills Reads none values b ↔ Carries Reads values b := by
  constructor
  · rintro (⟨rfl, rfl⟩ | ⟨-, value, x, rfl, reads, rfl⟩)
    · exact .absent
    · exact .present reads
  · rintro (_ | reads)
    · exact .inl ⟨rfl, rfl⟩
    · exact .inr ⟨rfl, _, _, rfl, reads, rfl⟩

/-- Runs of values fill a field one behind the other. -/
theorem fills_append_iff {a c : Option α} {xs ys : List Bytes} :
    Fills Reads a (xs ++ ys) c ↔ ∃ b, Fills Reads a xs b ∧ Fills Reads b ys c := by
  constructor
  · rintro (⟨h, rfl⟩ | ⟨rfl, value, x, h, reads, rfl⟩)
    · rw [List.append_eq_nil_iff] at h
      exact ⟨c, .inl ⟨h.1, rfl⟩, .inl ⟨h.2, rfl⟩⟩
    · rw [List.append_eq_singleton_iff] at h
      obtain ⟨rfl, rfl⟩ | ⟨rfl, rfl⟩ := h
      · exact ⟨none, .inl ⟨rfl, rfl⟩, .inr ⟨rfl, value, x, rfl, reads, rfl⟩⟩
      · exact ⟨some x, .inr ⟨rfl, value, x, rfl, reads, rfl⟩, .inl ⟨rfl, rfl⟩⟩
  · rintro ⟨b, ⟨rfl, rfl⟩ | ⟨rfl, value, x, rfl, reads, rfl⟩, hy⟩
    · exact hy
    · obtain ⟨rfl, rfl⟩ | ⟨h, -⟩ := hy
      · exact .inr ⟨rfl, value, x, rfl, reads, rfl⟩
      · exact absurd h (by simp)

end Fills

theorem values_cons (kind : UInt8) (r : RawRecord) (records : List RawRecord) :
    values kind (r :: records) = values kind [r] ++ values kind records := by
  by_cases h : r.kind = kind <;> simp [values, h]

theorem values_singleton (kind kind' : UInt8) (value : Bytes) :
    values kind [⟨kind', value⟩] = if kind' = kind then [value] else [] := by
  by_cases h : kind' = kind <;> simp [values, h]

theorem adds_nil_iff {m m' : Message} : Adds m [] m' ↔ m' = m := by
  constructor
  · obtain ⟨c, k, e⟩ := m
    obtain ⟨c', k', e'⟩ := m'
    rintro ⟨-, connect, cookie, error⟩
    rw [Message.mk.injEq]
    exact ⟨fills_nil_iff.1 connect, fills_nil_iff.1 cookie, fills_nil_iff.1 error⟩
  · rintro rfl
    exact ⟨by simp, fills_nil_iff.2 rfl, fills_nil_iff.2 rfl, fills_nil_iff.2 rfl⟩

/-- A run of records adds what its first record adds and then what the others add. -/
theorem adds_cons_iff {m m' : Message} {r : RawRecord} {records : List RawRecord} :
    Adds m (r :: records) m' ↔ ∃ m₁, Adds m [r] m₁ ∧ Adds m₁ records m' := by
  constructor
  · rintro ⟨typed, connect, cookie, error⟩
    rw [values_cons, fills_append_iff] at connect cookie error
    obtain ⟨c, connect, connect'⟩ := connect
    obtain ⟨k, cookie, cookie'⟩ := cookie
    obtain ⟨e, error, error'⟩ := error
    exact ⟨⟨c, k, e⟩, ⟨by simpa using typed r (by simp), connect, cookie, error⟩,
      ⟨fun s hs => typed s (by simp [hs]), connect', cookie', error'⟩⟩
  · rintro ⟨m₁, ⟨typed, connect, cookie, error⟩, ⟨typed', connect', cookie', error'⟩⟩
    refine ⟨?_, ?_, ?_, ?_⟩
    · simp only [List.mem_cons, List.not_mem_nil, or_false, forall_eq] at typed
      rintro s (_ | hs)
      · exact typed
      · exact typed' s (by assumption)
    · rw [values_cons, fills_append_iff]
      exact ⟨_, connect, connect'⟩
    · rw [values_cons, fills_append_iff]
      exact ⟨_, cookie, cookie'⟩
    · rw [values_cons, fills_append_iff]
      exact ⟨_, error, error'⟩

/-! ### One record

A record of one type leaves the fields of the other types as they are. -/

theorem not_adds_reserved {m m' : Message} {value : Bytes} : ¬ Adds m [⟨0, value⟩] m' :=
  fun h => h.typed ⟨0, value⟩ (by simp) rfl

theorem adds_connect_iff {m m' : Message} {value : Bytes} :
    Adds m [⟨connectType, value⟩] m' ↔ m.connect = none ∧
      ∃ destination, NamesDestination value destination ∧
        m' = { m with connect := some destination } := by
  constructor
  · rintro ⟨-, connect, cookie, error⟩
    obtain ⟨unset, destination, names, set⟩ := fills_singleton_iff.1 connect
    refine ⟨unset, destination, names, ?_⟩
    rw [← set, ← fills_nil_iff.1 cookie, ← fills_nil_iff.1 error]
  · rintro ⟨unset, destination, names, rfl⟩
    exact ⟨by simp [connectType], fills_singleton_iff.2 ⟨unset, destination, names, rfl⟩,
      fills_nil_iff.2 rfl, fills_nil_iff.2 rfl⟩

theorem adds_cookie_iff {m m' : Message} {value : Bytes} :
    Adds m [⟨cookieType, value⟩] m' ↔ m.cookie = none ∧
      (1 ≤ value.length ∧ value.length ≤ 256) ∧ m' = { m with cookie := some value } := by
  constructor
  · rintro ⟨-, connect, cookie, error⟩
    obtain ⟨unset, cookie, ⟨rfl, length⟩, set⟩ := fills_singleton_iff.1 cookie
    refine ⟨unset, length, ?_⟩
    rw [← set, ← fills_nil_iff.1 connect, ← fills_nil_iff.1 error]
  · rintro ⟨unset, length, rfl⟩
    exact ⟨by simp [cookieType], fills_nil_iff.2 rfl,
      fills_singleton_iff.2 ⟨unset, value, ⟨rfl, length⟩, rfl⟩, fills_nil_iff.2 rfl⟩

theorem adds_error_iff {m m' : Message} {value : Bytes} :
    Adds m [⟨errorType, value⟩] m' ↔ m.error = none ∧
      ∃ byte, value = [byte] ∧ m' = { m with error := some (.ofByte byte) } := by
  constructor
  · rintro ⟨-, connect, cookie, error⟩
    obtain ⟨unset, code, ⟨byte, rfl, rfl⟩, set⟩ := fills_singleton_iff.1 error
    refine ⟨unset, byte, rfl, ?_⟩
    rw [← set, ← fills_nil_iff.1 connect, ← fills_nil_iff.1 cookie]
  · rintro ⟨unset, byte, rfl, rfl⟩
    exact ⟨by simp [errorType], fills_nil_iff.2 rfl, fills_nil_iff.2 rfl,
      fills_singleton_iff.2 ⟨unset, _, ⟨byte, rfl, rfl⟩, rfl⟩⟩

theorem adds_unknown_iff {m m' : Message} {kind : UInt8} {value : Bytes} (typed : kind ≠ 0)
    (connect : kind ≠ connectType) (cookie : kind ≠ cookieType) (error : kind ≠ errorType) :
    Adds m [⟨kind, value⟩] m' ↔ m' = m := by
  have skipped (known : UInt8) (h : kind ≠ known) : values known [⟨kind, value⟩] = [] := by
    rw [values_singleton, if_neg h]
  rw [← adds_nil_iff]
  constructor
  · rintro ⟨-, c, k, e⟩
    rw [skipped _ connect] at c
    rw [skipped _ cookie] at k
    rw [skipped _ error] at e
    exact ⟨by simp, c, k, e⟩
  · rintro ⟨-, c, k, e⟩
    refine ⟨by simpa using typed, ?_, ?_, ?_⟩
    · rwa [skipped _ connect]
    · rwa [skipped _ cookie]
    · rwa [skipped _ error]

end RawRecord

namespace Message

open RawRecord

/-! ## Reading one record -/

theorem readDestination?_eq_some_iff {value : Bytes} {destination : SocketAddress} :
    readDestination? value = some destination ↔ NamesDestination value destination := by
  constructor
  · intro h
    unfold readDestination? at h
    split at h
    · rename_i length
      split at h
      · rename_i hi lo port
        refine ⟨_, hi, lo, length, ?_, (Option.some.inj h).symm⟩
        rw [← port, List.take_append_drop]
      · cases h
    · cases h
  · rintro ⟨octets, hi, lo, length, rfl, rfl⟩
    have taken : (octets ++ [hi, lo]).take 16 = octets := by simp [← length]
    have left : (octets ++ [hi, lo]).drop 16 = [hi, lo] := by simp [← length]
    simp only [readDestination?, taken, left, length, ↓reduceDIte]

/-- **One record**: the reader takes it exactly when it adds to what has been read. -/
theorem absorb_eq_ok_iff {m m' : Message} {kind : UInt8} {value : Bytes} :
    m.absorb kind value = .ok m' ↔ Adds m [⟨kind, value⟩] m' := by
  by_cases typed : kind = 0
  · subst typed
    exact iff_of_false (by simp [absorb]) not_adds_reserved
  by_cases connect : kind = connectType
  · subst connect
    simp only [absorb, typed, if_true, if_false, adds_connect_iff, ← readDestination?_eq_some_iff]
    cases m.connect <;> cases readDestination? value <;> simp [eq_comm]
  by_cases cookie : kind = cookieType
  · subst cookie
    simp only [absorb, typed, connect, if_true, if_false, adds_cookie_iff, cookie_refused_iff]
    by_cases length : 1 ≤ value.length ∧ value.length ≤ 256 <;>
      cases m.cookie <;> simp [length, eq_comm]
  by_cases error : kind = errorType
  · subst error
    simp only [absorb, typed, connect, cookie, if_true, if_false, adds_error_iff]
    cases m.error with
    | some code => simp
    | none => rcases value with _ | ⟨code, _ | ⟨second, rest⟩⟩ <;> simp [eq_comm]
  · rw [adds_unknown_iff typed connect cookie error]
    simp [absorb, typed, connect, cookie, error, eq_comm]

/-! ## Reading a region -/

/-- **A region of records**: it is read exactly when it splits into records, and the message read
is what those records add. -/
theorem absorbAll_eq_ok_iff {m m' : Message} {region : Bytes} :
    m.absorbAll region = .ok m' ↔ ∃ records, Splits region records ∧ Adds m records m' := by
  fun_induction absorbAll m region with
  | case1 m =>
    constructor
    · rintro ⟨⟩
      exact ⟨[], .nil, adds_nil_iff.2 rfl⟩
    · rintro ⟨records, splits, adds⟩
      cases splits
      rw [adds_nil_iff.1 adds]
  | case2 m kind hi lo rest length value overrun =>
    refine iff_of_false (by simp) ?_
    rintro ⟨records, splits, -⟩
    have fits := ((splits_cons_iff rfl).1 splits).1
    exact Nat.not_lt_of_le fits overrun
  | case3 m kind hi lo rest length value fits m₁ absorbed ih =>
    rw [ih]
    constructor
    · rintro ⟨others, splits, adds⟩
      refine ⟨⟨kind, value⟩ :: others, ?_, adds_cons_iff.2 ⟨m₁, absorb_eq_ok_iff.1 absorbed, adds⟩⟩
      exact (splits_cons_iff rfl).2 ⟨Nat.le_of_not_lt fits, others, rfl, splits⟩
    · rintro ⟨records, splits, adds⟩
      obtain ⟨-, others, rfl, left⟩ := (splits_cons_iff rfl).1 splits
      obtain ⟨m₂, first, adds⟩ := adds_cons_iff.1 adds
      -- the reader is a function, so the record adds the same to the message both times
      have same : m₁ = m₂ := Except.ok.inj (absorbed.symm.trans (absorb_eq_ok_iff.2 first))
      exact ⟨others, left, same ▸ adds⟩
  | case4 m kind hi lo rest length value fits e absorbed =>
    refine iff_of_false (by simp) ?_
    rintro ⟨records, splits, adds⟩
    obtain ⟨-, others, rfl, -⟩ := (splits_cons_iff rfl).1 splits
    obtain ⟨m₂, first, -⟩ := adds_cons_iff.1 adds
    cases absorbed.symm.trans (absorb_eq_ok_iff.2 first)
  | case5 m region nonempty short =>
    refine iff_of_false (by simp) ?_
    rintro ⟨records, splits, -⟩
    cases splits with
    | nil => exact nonempty rfl
    | cons => exact short _ _ _ _ rfl

/-! ## Reading a message -/

theorem decodeTlvs_eq (bytes : Bytes) (declared : Nat) : decodeTlvs bytes declared =
    if bytes.length < declared then .error (.truncated declared bytes.length)
    else match empty.absorbAll (bytes.take declared) with
      | .error e => .error e
      | .ok m =>
        if m.connect.isSome && m.error.isSome then .error (.malformed .conflictingTlvs)
        else .ok m := by
  unfold decodeTlvs
  split
  · rfl
  · cases empty.absorbAll (bytes.take declared) with
    | error e => rfl
    | ok m =>
      simp only [bind, Except.bind, pure, Except.pure]
      split <;> rfl

theorem decode_eq (bytes : Bytes) : decode bytes =
    match Header.decode bytes with
    | .error e => .error e
    | .ok header =>
      if bytes.length < header.messageLength then
        .error (.truncated header.messageLength bytes.length)
      else match decodeTlvs (bytes.drop headerLength) header.tlvLength.toNat with
        | .error e => .error e
        | .ok m =>
          if m.flags ≠ header.flags then .error (.malformed (.flagMismatch header.flags m.flags))
          else .ok (m, header.messageLength) := by
  unfold decode
  cases Header.decode bytes with
  | error e => rfl
  | ok header =>
    simp only [bind, Except.bind, pure, Except.pure]
    split
    · rfl
    · cases decodeTlvs (bytes.drop headerLength) header.tlvLength.toNat with
      | error e => rfl
      | ok m =>
        by_cases agree : m.flags = header.flags
        · simp only [agree, ne_eq, not_true_eq_false, if_false]
        · simp only [agree, ne_eq, not_false_eq_true, if_true]
          rfl

/-- The records behind a header: none of the declared bytes is missing, and no message asks for a
destination and reports a failure at once. -/
theorem decodeTlvs_eq_ok_iff {m : Message} {bytes : Bytes} {declared : Nat} :
    decodeTlvs bytes declared = .ok m ↔ declared ≤ bytes.length ∧
      (∃ records, Splits (bytes.take declared) records ∧ Adds empty records m) ∧
        ¬ (m.connect.isSome ∧ m.error.isSome) := by
  rw [← absorbAll_eq_ok_iff, decodeTlvs_eq]
  by_cases short : bytes.length < declared
  · rw [if_pos short]
    exact iff_of_false (by simp) fun h => Nat.not_le_of_lt short h.1
  rw [if_neg short]
  cases empty.absorbAll (bytes.take declared) with
  | error e => simp
  | ok m₁ =>
    by_cases conflict : m₁.connect.isSome ∧ m₁.error.isSome
    · rw [← Bool.and_eq_true] at conflict
      simp only [conflict, ↓reduceIte]
      refine iff_of_false (by simp) ?_
      rintro ⟨-, ⟨⟩, none⟩
      exact none ((Bool.and_eq_true ..).mp conflict)
    · have calm : (m₁.connect.isSome && m₁.error.isSome) = false := by simpa using conflict
      simp only [calm, Bool.false_eq_true, ↓reduceIte]
      constructor
      · rintro ⟨⟩
        exact ⟨Nat.le_of_not_lt short, rfl, conflict⟩
      · rintro ⟨-, same, -⟩
        exact same

/-- The header is of the one version there is. -/
theorem header_decode_eq_ok_iff {bytes : Bytes} {header : Header} :
    Header.decode bytes = .ok header ↔ ∃ flags hi lo rest,
      bytes = 1 :: flags :: hi :: lo :: rest ∧ header = ⟨.ofByte flags, Word.ofBytes hi lo⟩ := by
  constructor
  · intro h
    unfold Header.decode at h
    split at h
    · rename_i version flags hi lo rest
      split at h
      · rename_i supported
        cases h
        exact ⟨flags, hi, lo, rest, by rw [supported, protocolVersion], rfl⟩
      · cases h
    · cases h
  · rintro ⟨flags, hi, lo, rest, rfl, rfl⟩
    rfl

theorem adds_empty_iff {m : Message} {records : List RawRecord} :
    Adds empty records m ↔ (∀ r ∈ records, r.kind ≠ 0) ∧ Says records m := by
  constructor
  · rintro ⟨typed, connect, cookie, error⟩
    exact ⟨typed, fills_none_iff.1 connect, fills_none_iff.1 cookie, fills_none_iff.1 error⟩
  · rintro ⟨typed, connect, cookie, error⟩
    exact ⟨typed, fills_none_iff.2 connect, fills_none_iff.2 cookie, fills_none_iff.2 error⟩

/-- Records that say a message are admitted under the flags of its fields, unless it asks for a
destination and reports a failure at once. -/
theorem admitted_iff {m : Message} {flags : UInt8} {records : List RawRecord}
    (h : Says records m) : Admitted flags records ↔ (∀ r ∈ records, r.kind ≠ 0) ∧
      ¬ (m.connect.isSome ∧ m.error.isSome) ∧ m.flags = .ofByte flags := by
  obtain ⟨connect, cookie, error⟩ := h
  rw [Message.flags, Flags.ofByte, Flags.mk.injEq, connect.isSome, cookie.isSome, error.isSome]
  constructor
  · intro admitted
    refine ⟨admitted.typed, ?_, admitted.connect_flag.symm, admitted.cookie_flag.symm,
      admitted.error_flag.symm⟩
    simpa [Decidable.or_iff_not_imp_left] using admitted.exclusive
  · rintro ⟨typed, calm, named⟩
    refine ⟨typed, connect.length_le, fun v hv => ?_, cookie.length_le, fun v hv => ?_,
      error.length_le, fun v hv => ?_, ?_, named.1.symm, named.2.1.symm, named.2.2.symm⟩
    · obtain ⟨destination, names⟩ := connect.exists_reads hv
      exact names.length
    · obtain ⟨_, -, length⟩ := cookie.exists_reads hv
      exact length
    · obtain ⟨code, names⟩ := error.exists_reads hv
      exact names.length
    · simpa [Decidable.or_iff_not_imp_left] using calm

/-- `bytes` begin with a message of `used` bytes that says `m`: a header of the one version, as many
bytes behind it as it declares, and admitted records in these. -/
def Spells (bytes : Bytes) (m : Message) (used : Nat) : Prop :=
  ∃ flags hi lo rest records,
    bytes = 1 :: flags :: hi :: lo :: rest ∧
    used = 4 + (Word.ofBytes hi lo).toNat ∧ used ≤ bytes.length ∧
    Splits (rest.take (Word.ofBytes hi lo).toNat) records ∧
    Admitted flags records ∧ Says records m

theorem spells_of_decode {bytes : Bytes} {m : Message} {used : Nat}
    (h : decode bytes = .ok (m, used)) : Spells bytes m used := by
  rw [decode_eq] at h
  split at h
  · cases h
  rename_i header opens
  obtain ⟨flags, hi, lo, rest, rfl, rfl⟩ := header_decode_eq_ok_iff.1 opens
  split at h
  · cases h
  rename_i whole
  split at h
  · cases h
  rename_i m₁ read
  obtain ⟨-, ⟨records, splits, adds⟩, calm⟩ := decodeTlvs_eq_ok_iff.1 read
  split at h
  · cases h
  rename_i agree
  cases h
  obtain ⟨typed, said⟩ := adds_empty_iff.1 adds
  have admitted := (admitted_iff said).2 ⟨typed, calm, Decidable.not_not.1 agree⟩
  exact ⟨flags, hi, lo, rest, records, rfl, rfl, Nat.le_of_not_lt whole, splits, admitted, said⟩

theorem decode_of_spells {bytes : Bytes} {m : Message} {used : Nat} (h : Spells bytes m used) :
    decode bytes = .ok (m, used) := by
  obtain ⟨flags, hi, lo, rest, records, rfl, rfl, whole, splits, admitted, said⟩ := h
  obtain ⟨typed, calm, agree⟩ := (admitted_iff said).1 admitted
  have opens : Header.decode (1 :: flags :: hi :: lo :: rest) =
      .ok ⟨.ofByte flags, Word.ofBytes hi lo⟩ := rfl
  have enough : (Word.ofBytes hi lo).toNat ≤ rest.length := by
    simp only [List.length_cons] at whole
    omega
  have read : decodeTlvs rest (Word.ofBytes hi lo).toNat = .ok m :=
    decodeTlvs_eq_ok_iff.2 ⟨enough, ⟨records, splits, adds_empty_iff.2 ⟨typed, said⟩⟩, calm⟩
  simp only [decode_eq, opens, Header.messageLength, headerLength, List.drop_succ_cons,
    List.drop_zero, read, if_neg (Nat.not_lt_of_le whole), agree, ne_eq, not_true_eq_false,
    ↓reduceIte]

/-- **The reader accepts exactly the grammar**, and what it gives is what the records say: neither
their order nor those of other types nor the high bits of the flag byte change that. -/
theorem decode_eq_ok_iff (bytes : Bytes) (m : Message) (used : Nat) :
    decode bytes = .ok (m, used) ↔ Spells bytes m used :=
  ⟨spells_of_decode, decode_of_spells⟩

end Message

end TransportConverter
