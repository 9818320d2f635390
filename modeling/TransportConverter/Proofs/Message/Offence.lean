import TransportConverter.Proofs.Message.Truncation
/-!
# The first record that offends

A region of records that is refused has a first record that offends, and that one alone decides the
error. What offends is said here of one record and the records in front of it (`RawRecord.Offends`), or
of bytes of which no record can be made (`RawRecord.Unsplit`), with no reader in sight. The order in which
the reader makes its checks shows in what each offence leaves out: an overrun does not ask for the type,
a second record of a type not for its length.

The main result is `Message.first_offence_decides`: **records are refused exactly for the first offence,
and where there is none, for asking for a destination and reporting a failure at once**.
-/
namespace TransportConverter

namespace Field

/-- The type of the records that carry a field. -/
def type : Field → UInt8
  | connect => 0x0a
  | cookie => 0x16
  | error => 0x1e

/-- The lengths that the values of these records may have. -/
def Admits : Field → Nat → Prop
  | connect, length => length = 18
  | cookie, length => 1 ≤ length ∧ length ≤ 256
  | error, length => length = 1

theorem type_ne_zero (f : Field) : f.type ≠ 0 := by
  cases f <;> decide

theorem type_injective : Function.Injective type := by
  intro f g same
  cases f <;> cases g <;> first | rfl | exact absurd same (by decide)

end Field

namespace RawRecord

/-! ## What offends -/

/-- One of the records carries the field. -/
def Has (f : Field) (records : List RawRecord) : Prop := ∃ r ∈ records, r.kind = f.type

/-- What is wrong with a record that stands behind the records `before`. -/
inductive Offends (before : List RawRecord) : RawRecord → DecodeError → Prop
  | reserved (value : Bytes) : Offends before ⟨0, value⟩ (.malformed .reservedType)
  | second (f : Field) (value : Bytes) (seen : Has f before) :
      Offends before ⟨f.type, value⟩ (.malformed (.duplicate f))
  | length (f : Field) (value : Bytes) (unseen : ¬ Has f before) (unfit : ¬ f.Admits value.length) :
      Offends before ⟨f.type, value⟩ (.unsupportedLength f.type value.length)

/-- What is wrong with bytes that do not begin with a record: they are too few for its type and length, or
for its value. -/
inductive Unsplit : Bytes → DecodeError → Prop
  | short {rest : Bytes} (some : rest ≠ []) (short : rest.length < 3) :
      Unsplit rest (.malformed (.trailing rest.length))
  | overrun {kind hi lo : UInt8} {rest : Bytes} (long : rest.length < hi.toNat * 256 + lo.toNat) :
      Unsplit (kind :: hi :: lo :: rest)
        (.malformed (.overrun kind (hi.toNat * 256 + lo.toNat) rest.length))

/-- None of the records offends, each taken behind those in front of it and behind `before`. -/
def Clean (before records : List RawRecord) : Prop :=
  ∀ front r behind, records = front ++ r :: behind → ∀ e, ¬ Offends (before ++ front) r e

/-- The region begins with these records, and `rest` is what stands behind them. -/
def Begins (region : Bytes) (records : List RawRecord) (rest : Bytes) : Prop :=
  ∃ head, head ++ rest = region ∧ Splits head records

/-- The first offence of a region that stands behind the records `before`. -/
inductive FirstOffence (before : List RawRecord) (region : Bytes) : DecodeError → Prop
  | record {records : List RawRecord} {r : RawRecord} {rest : Bytes} {e : DecodeError}
      (begins : Begins region (records ++ [r]) rest) (clean : Clean before records)
      (offends : Offends (before ++ records) r e) : FirstOffence before region e
  | unsplit {records : List RawRecord} {rest : Bytes} {e : DecodeError}
      (begins : Begins region records rest) (clean : Clean before records)
      (unsplit : Unsplit rest e) : FirstOffence before region e

variable {before records : List RawRecord} {r : RawRecord} {m : Message} {e : DecodeError}
  {kind hi lo : UInt8} {rest : Bytes}

theorem clean_nil : Clean before [] := by
  intro front r behind none
  cases front <;> cases none

/-- Records are clean when the first of them is, and the others are behind it. -/
theorem clean_cons_iff : Clean before (r :: records) ↔
    (∀ e, ¬ Offends before r e) ∧ Clean (before ++ [r]) records := by
  constructor
  · intro clean
    refine ⟨fun e => by simpa using clean [] r records rfl e, ?_⟩
    rintro front s behind rfl e
    rw [List.append_assoc]
    exact clean (r :: front) s behind rfl e
  · rintro ⟨first, others⟩ front s behind same
    rw [List.cons_eq_append_iff] at same
    obtain ⟨rfl, same⟩ | ⟨front, rfl, same⟩ := same
    · cases same
      simpa using first
    · have := others front s behind same
      rwa [List.append_assoc] at this

theorem has_iff_values_ne_nil (f : Field) : Has f records ↔ values f.type records ≠ [] := by
  simp [Has, values]

/-! ## What offends, by the type of the record -/

section Kind
variable {f : Field} {value : Bytes}

theorem offends_reserved_iff : Offends before ⟨0, value⟩ e ↔ e = .malformed .reservedType := by
  constructor
  · generalize kind : (0 : UInt8) = zero
    intro offends
    cases offends with
    | reserved => rfl
    | second f => exact absurd kind.symm f.type_ne_zero
    | length f => exact absurd kind.symm f.type_ne_zero
  · rintro rfl
    exact .reserved value

theorem offends_field_iff : Offends before ⟨f.type, value⟩ e ↔
    Has f before ∧ e = .malformed (.duplicate f) ∨
      (¬ Has f before ∧ ¬ f.Admits value.length) ∧ e = .unsupportedLength f.type value.length := by
  constructor
  · generalize kind : f.type = known
    intro offends
    cases offends with
    | reserved => exact absurd kind f.type_ne_zero
    | second g value seen =>
      cases Field.type_injective kind
      exact .inl ⟨seen, rfl⟩
    | length g value unseen unfit =>
      cases Field.type_injective kind
      exact .inr ⟨⟨unseen, unfit⟩, rfl⟩
  · rintro (⟨seen, rfl⟩ | ⟨⟨unseen, unfit⟩, rfl⟩)
    · exact .second f value seen
    · exact .length f value unseen unfit

/-- A record of an unknown type never offends. -/
theorem not_offends_unknown (typed : r.kind ≠ 0) (unknown : ∀ f : Field, r.kind ≠ f.type) :
    ¬ Offends before r e := by
  intro offends
  cases offends with
  | reserved => exact typed rfl
  | second f => exact unknown f rfl
  | length f => exact unknown f rfl

end Kind

/-! ## The first offence, record by record -/

theorem begins_nil_iff {region : Bytes} : Begins region [] rest ↔ rest = region := by
  constructor
  · rintro ⟨head, rfl, splits⟩
    cases splits
    rfl
  · rintro rfl
    exact ⟨[], rfl, .nil⟩

/-- Bytes that begin with a record are its type, its length and what there is of its value. -/
theorem Begins.opens {region : Bytes} (begins : Begins region (r :: records) rest) :
    ∃ kind hi lo tail, region = kind :: hi :: lo :: tail := by
  obtain ⟨head, rfl, splits⟩ := begins
  cases splits with
  | cons => exact ⟨_, _, _, _, rfl⟩

/-- The first record takes what its length says, if there is as much. -/
theorem begins_cons_iff {tail : Bytes} : Begins (kind :: hi :: lo :: tail) (r :: records) rest ↔
    (Word.ofBytes hi lo).toNat ≤ tail.length ∧ r = ⟨kind, tail.take (Word.ofBytes hi lo).toNat⟩ ∧
      Begins (tail.drop (Word.ofBytes hi lo).toNat) records rest := by
  constructor
  · rintro ⟨head, whole, splits⟩
    cases splits with
    | @cons _ _ _ value region _ fits splits =>
      simp only [List.cons_append, List.cons.injEq, List.append_assoc] at whole
      obtain ⟨rfl, rfl, rfl, rfl⟩ := whole
      rw [← fits, List.take_left, List.drop_left, List.length_append]
      exact ⟨Nat.le_add_right _ _, rfl, region, rfl, splits⟩
  · rintro ⟨fits, rfl, head, behind, splits⟩
    have length := List.length_take_of_le fits
    refine ⟨kind :: hi :: lo :: (tail.take _ ++ head), ?_, .cons length splits⟩
    rw [List.cons_append, List.cons_append, List.cons_append, List.append_assoc, behind,
      List.take_append_drop]

theorem Unsplit.not_begins {region : Bytes} (unsplit : Unsplit region e) :
    ¬ Begins region (r :: records) rest := by
  intro begins
  obtain ⟨kind, hi, lo, tail, rfl⟩ := begins.opens
  cases unsplit with
  | short some short =>
    simp only [List.length_cons] at short
    omega
  | overrun long =>
    have fits := (begins_cons_iff.1 begins).1
    rw [Word.toNat_ofBytes] at fits
    omega

theorem Unsplit.unique {region : Bytes} {e' : DecodeError} (one : Unsplit region e)
    (other : Unsplit region e') : e = e' := by
  cases one with
  | short some short =>
    cases other with
    | short => rfl
    | overrun =>
      simp only [List.length_cons] at short
      omega
  | overrun =>
    cases other with
    | short some short =>
      simp only [List.length_cons] at short
      omega
    | overrun => rfl

theorem not_begins_nil : ¬ Begins [] (r :: records) rest := by
  intro begins
  obtain ⟨_, _, _, _, none⟩ := begins.opens
  cases none

theorem not_firstOffence_nil : ¬ FirstOffence before [] e := by
  intro offence
  cases offence with
  | @record records _ _ _ begins => cases records <;> exact not_begins_nil begins
  | @unsplit records _ _ begins _ unsplit =>
    cases records with
    | nil =>
      cases begins_nil_iff.1 begins
      cases unsplit with
      | short some => exact some rfl
    | cons => exact not_begins_nil begins

/-- Bytes that do not begin with a record offend as such. -/
theorem firstOffence_iff_of_unsplit {region : Bytes} {e' : DecodeError} (unsplit : Unsplit region e') :
    FirstOffence before region e ↔ e = e' := by
  constructor
  · intro offence
    cases offence with
    | @record records r rest _ begins =>
      cases records <;> exact absurd begins unsplit.not_begins
    | @unsplit records rest _ begins _ last =>
      cases records with
      | nil =>
        rw [begins_nil_iff.1 begins] at last
        exact last.unique unsplit
      | cons r records => exact absurd begins unsplit.not_begins
  · rintro rfl
    exact .unsplit (begins_nil_iff.2 rfl) clean_nil unsplit

/-- Where a region begins with a record, the first offence is what is wrong with it, and if nothing is, the
first behind it. -/
theorem firstOffence_cons_iff (fits : (Word.ofBytes hi lo).toNat ≤ rest.length)
    (first : r = ⟨kind, rest.take (Word.ofBytes hi lo).toNat⟩) :
    FirstOffence before (kind :: hi :: lo :: rest) e ↔
      Offends before r e ∨ (∀ e', ¬ Offends before r e') ∧
        FirstOffence (before ++ [r]) (rest.drop (Word.ofBytes hi lo).toNat) e := by
  constructor
  · intro offence
    cases offence with
    | @record records s behind _ begins clean offends =>
      cases records with
      | nil =>
        obtain ⟨-, same, -⟩ := begins_cons_iff.1 begins
        rw [same, ← first, List.append_nil] at offends
        exact .inl offends
      | cons t records =>
        obtain ⟨-, same, begins⟩ := begins_cons_iff.1 begins
        rw [← first] at same
        subst same
        obtain ⟨passes, clean⟩ := clean_cons_iff.1 clean
        refine .inr ⟨passes, .record begins clean ?_⟩
        rwa [List.append_assoc]
    | @unsplit records behind _ begins clean unsplit =>
      cases records with
      | nil =>
        rw [begins_nil_iff.1 begins] at unsplit
        exact absurd (begins_cons_iff.2 ⟨fits, first, begins_nil_iff.2 rfl⟩) unsplit.not_begins
      | cons t records =>
        obtain ⟨-, same, begins⟩ := begins_cons_iff.1 begins
        rw [← first] at same
        subst same
        obtain ⟨passes, clean⟩ := clean_cons_iff.1 clean
        exact .inr ⟨passes, .unsplit begins clean unsplit⟩
  · rintro (offends | ⟨passes, offence⟩)
    · refine .record (begins_cons_iff.2 ⟨fits, first, begins_nil_iff.2 rfl⟩) clean_nil ?_
      rwa [List.append_nil]
    · cases offence with
      | record begins clean offends =>
        rw [List.append_assoc] at offends
        exact .record (begins_cons_iff.2 ⟨fits, first, begins⟩) (clean_cons_iff.2 ⟨passes, clean⟩)
          offends
      | unsplit begins clean unsplit =>
        exact .unsplit (begins_cons_iff.2 ⟨fits, first, begins⟩) (clean_cons_iff.2 ⟨passes, clean⟩)
          unsplit

/-! ## What has been read shows what was in front -/

theorem isSome_iff_has {α : Type} {Reads : Bytes → α → Prop} {a : Option α} (f : Field)
    (carries : Carries Reads (values f.type records) a) : a.isSome = true ↔ Has f records := by
  rw [carries.isSome, has_iff_values_ne_nil, Bool.not_eq_true', List.isEmpty_eq_false_iff]

/-- The fields of a message that is being read are those of the records read so far. -/
theorem Adds.isSome_iff (read : Adds .empty before m) :
    (m.connect.isSome = true ↔ Has .connect before) ∧ (m.cookie.isSome = true ↔ Has .cookie before) ∧
      (m.error.isSome = true ↔ Has .error before) := by
  obtain ⟨-, connect, cookie, error⟩ := Message.adds_empty_iff.1 read
  exact ⟨isSome_iff_has .connect connect, isSome_iff_has .cookie cookie, isSome_iff_has .error error⟩

theorem adds_append_iff {m m' : Message} {front back : List RawRecord} :
    Adds m (front ++ back) m' ↔ ∃ m₁, Adds m front m₁ ∧ Adds m₁ back m' := by
  induction front generalizing m with
  | nil => simp [adds_nil_iff]
  | cons r front ih =>
    rw [List.cons_append, adds_cons_iff]
    constructor
    · rintro ⟨m₁, first, others⟩
      obtain ⟨m₂, front, back⟩ := ih.1 others
      exact ⟨m₂, adds_cons_iff.2 ⟨m₁, first, front⟩, back⟩
    · rintro ⟨m₂, front, back⟩
      obtain ⟨m₁, first, others⟩ := adds_cons_iff.1 front
      exact ⟨m₁, first, ih.2 ⟨m₂, others, back⟩⟩

end RawRecord

namespace Message

open RawRecord

variable {before records : List RawRecord} {m : Message} {e : DecodeError} {kind : UInt8} {value : Bytes}

/-! ## Reading one record -/

theorem readDestination?_eq_none_iff : readDestination? value = none ↔ ¬ value.length = 18 := by
  constructor
  · intro unread length
    have front : (value.take 16).length = 16 := List.length_take_of_le (by omega)
    have back : (value.drop 16).length = 2 := by rw [List.length_drop, length]
    obtain ⟨hi, lo, port⟩ := List.length_eq_two.1 back
    simp [readDestination?, front, port] at unread
  · intro length
    cases read : readDestination? value with
    | none => rfl
    | some destination => exact absurd (readDestination?_eq_some_iff.1 read).length length

/-- **One record**: the reader refuses it exactly when it offends behind those it has read. -/
theorem absorb_eq_error_iff (read : Adds empty before m) :
    m.absorb kind value = .error e ↔ Offends before ⟨kind, value⟩ e := by
  obtain ⟨connect, cookie, error⟩ := read.isSome_iff
  by_cases reserved : kind = 0
  · subst reserved
    simp [absorb, offends_reserved_iff, eq_comm]
  by_cases isConnect : kind = Field.connect.type
  · subst isConnect
    rw [offends_field_iff, ← connect, Field.Admits, ← readDestination?_eq_none_iff]
    by_cases seen : m.connect.isSome <;> cases named : readDestination? value <;>
      simp [absorb, Field.type, connectType, seen, named, eq_comm]
  by_cases isCookie : kind = Field.cookie.type
  · subst isCookie
    rw [offends_field_iff, ← cookie, Field.Admits, ← cookie_refused_iff]
    by_cases seen : m.cookie.isSome <;>
      by_cases refused : value.isEmpty || decide (maxCookieLength < value.length) <;>
      simp [absorb, Field.type, connectType, cookieType, seen, refused, eq_comm]
  by_cases isError : kind = Field.error.type
  · subst isError
    rw [offends_field_iff, ← error, Field.Admits]
    by_cases seen : m.error.isSome <;> rcases value with _ | ⟨code, _ | ⟨second, others⟩⟩ <;>
      simp [absorb, Field.type, connectType, cookieType, errorType, seen, eq_comm]
  · have unknown : ∀ f : Field, kind ≠ f.type := fun f => by cases f <;> assumption
    refine iff_of_false ?_ (not_offends_unknown reserved unknown)
    have typed : kind ≠ connectType ∧ kind ≠ cookieType ∧ kind ≠ errorType :=
      ⟨isConnect, isCookie, isError⟩
    simp [absorb, reserved, typed]

/-! ## Reading a region -/

theorem length_lt_three {region : Bytes} (short : ∀ kind hi lo rest, region ≠ kind :: hi :: lo :: rest) :
    region.length < 3 := by
  match region, short with
  | [], _ | [_], _ | [_, _], _ => simp
  | kind :: hi :: lo :: rest, short => exact absurd rfl (short kind hi lo rest)

/-- **A region of records**: it is refused exactly for its first offence. -/
theorem absorbAll_eq_error_iff {region : Bytes} (read : Adds empty before m) :
    m.absorbAll region = .error e ↔ FirstOffence before region e := by
  -- what stands in front grows with every record that is read
  revert before
  fun_induction absorbAll m region with
  | case1 m => exact fun _ => iff_of_false (by simp) not_firstOffence_nil
  | case2 m kind hi lo rest length value =>
    rename_i overrun
    intro before read
    have long : rest.length < hi.toNat * 256 + lo.toNat := by
      simp only [value, length, Word.toNat_ofBytes, List.length_take] at overrun
      omega
    rw [firstOffence_iff_of_unsplit (.overrun long), Except.error.injEq, eq_comm]
    simp only [length, Word.toNat_ofBytes]
  | case3 m kind hi lo rest length value fits m₁ absorbed =>
    rename_i ih
    intro before read
    have enough : length ≤ rest.length := (Nat.le_of_not_lt fits).trans (List.length_take_le' _ _)
    have adds := absorb_eq_ok_iff.1 absorbed
    have passes : ∀ e', ¬ Offends before ⟨kind, value⟩ e' := by
      intro e' offends
      cases absorbed.symm.trans ((absorb_eq_error_iff read).2 offends)
    rw [ih (adds_append_iff.2 ⟨_, read, adds⟩), firstOffence_cons_iff enough rfl]
    exact ⟨fun offence => .inr ⟨passes, offence⟩, fun h => h.elim (absurd · (passes e)) (·.2)⟩
  | case4 m kind hi lo rest length value fits e' =>
    rename_i refused
    intro before read
    have enough : length ≤ rest.length := (Nat.le_of_not_lt fits).trans (List.length_take_le' _ _)
    have offends := (absorb_eq_error_iff read).1 refused
    rw [firstOffence_cons_iff enough rfl, ← absorb_eq_error_iff read, refused]
    exact ⟨.inl, fun h => h.elim id fun others => absurd offends (others.1 e')⟩
  | case5 m region nonempty short =>
    intro before read
    rw [firstOffence_iff_of_unsplit (.short nonempty (length_lt_three short)), Except.error.injEq, eq_comm]

/-- Records are clean exactly when they add to what has been read. -/
theorem clean_iff_adds (read : Adds empty before m) :
    Clean before records ↔ ∃ m', Adds m records m' := by
  induction records generalizing before m with
  | nil => exact iff_of_true clean_nil ⟨m, adds_nil_iff.2 rfl⟩
  | cons r records ih =>
    rw [clean_cons_iff]
    constructor
    · rintro ⟨passes, clean⟩
      cases absorbed : m.absorb r.kind r.value with
      | error e => exact absurd ((absorb_eq_error_iff read).1 absorbed) (passes e)
      | ok m₁ =>
        have first := absorb_eq_ok_iff.1 absorbed
        obtain ⟨m', others⟩ := (ih (adds_append_iff.2 ⟨m, read, first⟩)).1 clean
        exact ⟨m', adds_cons_iff.2 ⟨m₁, first, others⟩⟩
    · rintro ⟨m', adds⟩
      obtain ⟨m₁, first, others⟩ := adds_cons_iff.1 adds
      refine ⟨fun e offends => ?_, (ih (adds_append_iff.2 ⟨m, read, first⟩)).2 ⟨m', others⟩⟩
      cases (absorb_eq_ok_iff.2 first).symm.trans ((absorb_eq_error_iff read).2 offends)

/-! ## Reading the records of a message -/

/-- Why the records of a message are refused: some of the declared bytes are missing, or they hold an offence,
or none of their records offends and yet they ask for a destination and report a failure. -/
inductive RegionRefused (bytes : Bytes) (declared : Nat) : DecodeError → Prop
  | truncated (short : bytes.length < declared) :
      RegionRefused bytes declared (.truncated declared bytes.length)
  | offence {e : DecodeError} (enough : declared ≤ bytes.length)
      (first : FirstOffence [] (bytes.take declared) e) : RegionRefused bytes declared e
  | conflict {records : List RawRecord} (enough : declared ≤ bytes.length)
      (splits : Splits (bytes.take declared) records) (clean : Clean [] records)
      (connect : Has .connect records) (error : Has .error records) :
      RegionRefused bytes declared (.malformed .conflictingTlvs)

theorem adds_empty_nil : Adds empty [] empty := adds_nil_iff.2 rfl

theorem decodeTlvs_eq_error_iff {bytes : Bytes} {declared : Nat} :
    decodeTlvs bytes declared = .error e ↔ RegionRefused bytes declared e := by
  constructor
  · intro refused
    rw [decodeTlvs_eq] at refused
    split at refused
    · rename_i short
      cases refused
      exact .truncated short
    rename_i enough
    rw [Nat.not_lt] at enough
    split at refused
    · rename_i e' stopped
      cases refused
      exact .offence enough ((absorbAll_eq_error_iff adds_empty_nil).1 stopped)
    · rename_i m whole
      split at refused
      · rename_i conflict
        cases refused
        obtain ⟨records, splits, adds⟩ := absorbAll_eq_ok_iff.1 whole
        obtain ⟨connect, -, error⟩ := adds.isSome_iff
        rw [Bool.and_eq_true] at conflict
        exact .conflict enough splits ((clean_iff_adds adds_empty_nil).2 ⟨m, adds⟩)
          (connect.1 conflict.1) (error.1 conflict.2)
      · cases refused
  · intro refused
    rw [decodeTlvs_eq]
    cases refused with
    | truncated short => rw [if_pos short]
    | offence enough first =>
      rw [if_neg (by omega), (absorbAll_eq_error_iff adds_empty_nil).2 first]
    | conflict enough splits clean connect error =>
      obtain ⟨m, adds⟩ := (clean_iff_adds adds_empty_nil).1 clean
      have shows := adds.isSome_iff
      rw [if_neg (by omega), absorbAll_eq_ok_iff.2 ⟨_, splits, adds⟩]
      simp only [shows.1.2 connect, shows.2.2.2 error, Bool.and_self, if_true]

/-- What stands behind a record that is the first to offend is never looked at. -/
theorem decodeTlvs_of_first {head : Bytes} {r : RawRecord} (splits : Splits head (records ++ [r]))
    (clean : Clean [] records) (offends : Offends records r e) (tail beyond : Bytes) :
    decodeTlvs (head ++ tail ++ beyond) (head.length + tail.length) = .error e := by
  have begins : Begins ((head ++ tail ++ beyond).take (head.length + tail.length)) (records ++ [r]) tail := by
    refine ⟨head, ?_, splits⟩
    rw [← List.length_append, List.take_left]
  exact decodeTlvs_eq_error_iff.2 (.offence (by simp) (.record begins clean offends))

/-- **The first offence decides.** Records are truncated exactly when some of the declared bytes are missing.
All that they are refused for is the first of them that offends, or the bytes behind clean ones that are not
a record, and only where nothing of the kind is found, that they ask for a destination and report a failure.
Neither what stands behind a record that offends nor what stands behind the declared bytes changes that. -/
theorem first_offence_decides (bytes : Bytes) (declared : Nat) :
    (∀ needed available, decodeTlvs bytes declared = .error (.truncated needed available) ↔
      bytes.length < declared ∧ needed = declared ∧ available = bytes.length) ∧
    (∀ e, decodeTlvs bytes declared = .error e ↔ RegionRefused bytes declared e) ∧
    (∀ head records r e, Splits head (records ++ [r]) → Clean [] records → Offends records r e →
      ∀ tail beyond, decodeTlvs (head ++ tail ++ beyond) (head.length + tail.length) = .error e) ∧
    (declared ≤ bytes.length →
      ∀ tail, decodeTlvs (bytes ++ tail) declared = decodeTlvs bytes declared) := by
  refine ⟨fun needed available => ?_, fun e => decodeTlvs_eq_error_iff,
    fun head records r e splits clean offends => decodeTlvs_of_first splits clean offends,
    decodeTlvs_append⟩
  constructor
  · intro truncated
    by_cases short : bytes.length < declared
    · rw [decodeTlvs_eq_error_iff.2 (.truncated short)] at truncated
      cases truncated
      exact ⟨short, rfl, rfl⟩
    · cases decodeTlvs_error (Nat.le_of_not_lt short) truncated
  · rintro ⟨short, rfl, rfl⟩
    exact decodeTlvs_eq_error_iff.2 (.truncated short)

/-- A second cookie is refused as such: not for its length, and not for what stands behind it. -/
theorem first_offence_decides_cookies :
    Splits [0x16, 0, 1, 5, 0x16, 0, 0] [⟨0x16, [5]⟩, ⟨0x16, []⟩] ∧
    ∀ tail beyond, decodeTlvs ([0x16, 0, 1, 5, 0x16, 0, 0] ++ tail ++ beyond) (7 + tail.length) =
      .error (.malformed (.duplicate .cookie)) := by
  have second : Splits [0x16, 0, 0] [⟨0x16, []⟩] :=
    (splits_cons_iff rfl).2 ⟨Nat.le_refl 0, [], rfl, .nil⟩
  have splits : Splits [0x16, 0, 1, 5, 0x16, 0, 0] [⟨0x16, [5]⟩, ⟨0x16, []⟩] :=
    (splits_cons_iff rfl).2 ⟨Nat.le_refl 1, [⟨0x16, []⟩], rfl, second⟩
  have clean : Clean [] [⟨0x16, [5]⟩] :=
    (clean_iff_adds adds_empty_nil).2 ⟨_, adds_cookie_iff.2 ⟨rfl, by decide, rfl⟩⟩
  have seen : Has .cookie [⟨0x16, [5]⟩] := ⟨_, List.mem_singleton_self _, rfl⟩
  exact ⟨splits, (first_offence_decides [] 0).2.2.1 _ [⟨0x16, [5]⟩] ⟨0x16, []⟩ _ splits clean
    (.second .cookie [] seen)⟩

end Message

end TransportConverter
