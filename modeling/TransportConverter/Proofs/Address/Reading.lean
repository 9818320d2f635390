import Mathlib.Algebra.Group.Nat.Defs
import TransportConverter.Address.Reader
import TransportConverter.Address.Text
import TransportConverter.Proofs.Text.Digits
/-!
# Addresses read back from their text

The text of an address of either family is read as that address (`IpAddress.ofText?_text`), although more is
read than is ever written. The groups of an IPv6 address are read from the left, and before each group but the
last the reader first looks for an IPv4 address; what tells the two apart is the point that no group has
(`Ipv4.read_eq_none`). Where zero groups are left out, the reader puts in as many as are missing, and these are
the ones that were there (`Ipv6.zeros_longestZeroRun`).
-/
namespace TransportConverter

/-! ## Numbers -/

/-- No digit stands at the front. -/
def NoDigit (base : Nat) (rest : List Char) : Prop := ∀ c ∈ rest.head?, isDigitIn base c = false

theorem NoDigit.cons {base : Nat} {c : Char} (other : isDigitIn base c = false) (rest : List Char) :
    NoDigit base (c :: rest) := by
  simpa [NoDigit] using other

theorem NoDigit.nil (base : Nat) : NoDigit base [] := nofun

/-- All digits at the front are taken. -/
theorem takeWhile_digits {base : Nat} {digits rest : List Char}
    (all : ∀ c ∈ digits, isDigitIn base c = true) (stops : NoDigit base rest) :
    (digits ++ rest).takeWhile (isDigitIn base) = digits ∧
      (digits ++ rest).dropWhile (isDigitIn base) = rest := by
  rw [List.takeWhile_append_of_pos all, List.dropWhile_append_of_pos all]
  cases rest with
  | nil => simp
  | cons c rest =>
    have other : isDigitIn base c = false := stops c rfl
    simp [other]

namespace NumberFormat

/-- A number is read from its digits, if the format has room for it. -/
theorem read_toDigits (format : NumberFormat) (one : 1 < format.base) (hex : format.base ≤ 16) {n : Nat}
    (small : n < format.bound) (short : ∀ k ∈ format.maxDigits, 0 < k ∧ n < format.base ^ k)
    {rest : List Char} (stops : NoDigit format.base rest) :
    format.read (Nat.toDigits format.base n ++ rest) = some (n, rest) := by
  obtain ⟨taken, left⟩ := takeWhile_digits (fun c => isDigitIn_of_mem_toDigits one hex (n := n)) stops
  have fits : format.maxDigits.any (· < (Nat.toDigits format.base n).length) = false := by
    cases most : format.maxDigits with
    | none => rfl
    | some k =>
      obtain ⟨pos, power⟩ := short k most
      simpa using (Nat.length_toDigits_le_iff one pos).2 power
  have plain : (!format.leadingZeros && (Nat.toDigits format.base n).head? == some '0' &&
      decide (1 < (Nat.toDigits format.base n).length)) = false := by
    by_cases zero : n = 0
    · subst zero
      simp
    · simp [head?_toDigits one hex zero]
  simp only [read, taken, left, fits, plain, digitsValue_toDigits one hex, List.isEmpty_iff,
    Nat.toDigits_ne_nil, Nat.not_le_of_lt small, if_false, Bool.false_eq_true]

/-- What is left is a part of what was there. -/
theorem isSuffix_of_read {format : NumberFormat} {cs rest : List Char} {n : Nat}
    (read : format.read cs = some (n, rest)) : rest <:+ cs := by
  simp only [NumberFormat.read, Option.ite_none_left_eq_some, Option.some.injEq, Prod.mk.injEq] at read
  obtain ⟨-, -, -, -, -, rfl⟩ := read
  exact List.dropWhile_suffix _

theorem octet_read (a : UInt8) {rest : List Char} (stops : NoDigit 10 rest) :
    octet.read (decimal a.toNat ++ rest) = some (a.toNat, rest) := by
  refine read_toDigits octet (by decide) (by decide) a.toNat_lt ?_ stops
  rintro _ ⟨⟩
  exact ⟨by decide, Nat.lt_trans a.toNat_lt (by decide)⟩

theorem group_read (g : UInt16) {rest : List Char} (stops : NoDigit 16 rest) :
    group.read (Ipv6.groupText g ++ rest) = some (g.toNat, rest) := by
  refine read_toDigits group (by decide) (by decide) g.toNat_lt ?_ stops
  rintro _ ⟨⟩
  exact ⟨by decide, g.toNat_lt⟩

end NumberFormat

/-! ## Four octets -/

namespace Ipv4

theorem readOctet_decimal (a : UInt8) {rest : List Char} (stops : NoDigit 10 rest) :
    readOctet (decimal a.toNat ++ rest) = some (a, rest) := by
  simp [readOctet, NumberFormat.octet_read a stops]

theorem readPointOctet_decimal (a : UInt8) {rest : List Char} (stops : NoDigit 10 rest) :
    readPointOctet ('.' :: (decimal a.toNat ++ rest)) = some (a, rest) := by
  simp [readPointOctet, readChar, readOctet_decimal a stops]

theorem read_text (ip : Ipv4) {rest : List Char} (stops : NoDigit 10 rest) :
    read (ip.text ++ rest) = some (ip, rest) := by
  have point (rest : List Char) : NoDigit 10 ('.' :: rest) := .cons (by decide) rest
  have text : ip.text ++ rest = decimal ip.a.toNat ++ '.' :: (decimal ip.b.toNat ++
      '.' :: (decimal ip.c.toNat ++ '.' :: (decimal ip.d.toNat ++ rest))) := by
    simp [Ipv4.text]
  simp [text, read, readOctet_decimal ip.a (point _), readPointOctet_decimal ip.b (point _),
    readPointOctet_decimal ip.c (point _), readPointOctet_decimal ip.d stops]

/-- An IPv4 address has points in it. -/
theorem read_eq_none {cs : List Char} (pointless : '.' ∉ cs) : read cs = none := by
  unfold read
  cases first : readOctet cs with
  | none => rfl
  | some octet =>
    obtain ⟨⟨n, rest⟩, front, rfl⟩ := Option.map_eq_some_iff.1 first
    have left : '.' ∉ rest := fun mem => pointless ((NumberFormat.isSuffix_of_read front).mem mem)
    have none : readPointOctet rest = none := by
      cases rest with
      | nil => rfl
      | cons c rest =>
        have other : c ≠ '.' := fun same => left (same ▸ List.mem_cons_self ..)
        simp [readPointOctet, readChar, other]
    simp [none]

end Ipv4

/-! ## Eight groups -/

namespace Ipv6

/-- Groups with a colon before each. -/
def groupsBehind (groups : List UInt16) : List Char := groups.flatMap fun g => ':' :: groupText g

theorem groupsText_cons (g : UInt16) (groups : List UInt16) :
    groupsText (g :: groups) = groupText g ++ groupsBehind groups := by
  induction groups generalizing g with
  | nil => simp [groupsText, groupsBehind]
  | cons next groups ih =>
    have colon : groupsText (g :: next :: groups) = groupText g ++ ':' :: groupsText (next :: groups) := rfl
    rw [colon, ih]
    rfl

theorem readGroup_groupText (g : UInt16) {rest : List Char} (stops : NoDigit 16 rest) :
    readGroup (groupText g ++ rest) = some (g, rest) := by
  simp [readGroup, NumberFormat.group_read g stops]

theorem not_mem_groupText {c : Char} (other : isDigitIn 16 c = false) (g : UInt16) : c ∉ groupText g := by
  intro mem
  rw [isDigitIn_of_mem_toDigits (by decide) (by decide) mem] at other
  cases other

/-! ### Step by step -/

section Step

variable {cs : List Char} {first : Bool}

/-- Where there is no point there is no IPv4 address. -/
theorem no_ipv4 (pointless : '.' ∉ cs) (first : Bool) :
    (readColonUnless first cs).bind Ipv4.read = none := by
  cases first with
  | true => exact Ipv4.read_eq_none pointless
  | false =>
    cases cs with
    | nil => rfl
    | cons c cs =>
      by_cases colon : c = ':'
      · simpa [readColonUnless, readChar, colon] using
          Ipv4.read_eq_none fun mem => pointless (List.mem_cons_of_mem c mem)
      · simp [readColonUnless, readChar, colon]

theorem readGroups_stop (none : (readColonUnless first cs).bind Ipv4.read = none)
    (closed : (readColonUnless first cs).bind readGroup = Option.none) (room : Nat) :
    readGroups room first cs = ⟨[], false, cs⟩ := by
  cases room with
  | zero => rfl
  | succ room => simp [readGroups, none, closed]

theorem readGroups_cons (none : (readColonUnless first cs).bind Ipv4.read = none) {g : UInt16}
    {behind : List Char} (opens : readColonUnless first cs = some (groupText g ++ behind))
    (stops : NoDigit 16 behind) (room : Nat) : readGroups (room + 1) first cs =
      { readGroups room false behind with groups := g :: (readGroups room false behind).groups } := by
  have front : (readColonUnless first cs).bind readGroup = some (g, behind) := by
    rw [opens, Option.bind_some, readGroup_groupText g stops]
  simp [readGroups, none, front]

/-- An IPv4 address stands for two groups. -/
theorem readGroups_ipv4 {ip : Ipv4} {rest : List Char}
    (front : (readColonUnless first cs).bind Ipv4.read = some (ip, rest)) (room : Nat) :
    readGroups (room + 2) first cs = ⟨ip.groups, true, rest⟩ := by
  simp [readGroups, front]

end Step

/-! ### Groups without points -/

/-- What stands behind groups is no further group. -/
structure Closed (rest : List Char) : Prop where
  pointless : '.' ∉ rest
  stops : NoDigit 16 rest
  last : (readChar ':' rest).bind readGroup = none

theorem Closed.behind {rest : List Char} (closed : Closed rest) (groups : List UInt16) :
    '.' ∉ groupsBehind groups ++ rest ∧ NoDigit 16 (groupsBehind groups ++ rest) := by
  constructor
  · simp only [groupsBehind, List.mem_append, List.mem_flatMap, List.mem_cons, not_or, not_exists, not_and]
    exact ⟨fun g _ => ⟨by decide, not_mem_groupText (by decide) g⟩, closed.pointless⟩
  · cases groups with
    | nil => exact closed.stops
    | cons g groups => exact .cons (by decide) _

theorem readGroups_groupsBehind {rest : List Char} (closed : Closed rest) (groups : List UInt16) {room : Nat}
    (fits : groups.length ≤ room) :
    readGroups room false (groupsBehind groups ++ rest) = ⟨groups, false, rest⟩ := by
  induction groups generalizing room with
  | nil => exact readGroups_stop (no_ipv4 closed.pointless false) closed.last room
  | cons g groups ih =>
    obtain ⟨room, rfl⟩ := Nat.exists_eq_add_of_le' (Nat.lt_of_lt_of_le (Nat.succ_pos _) fits)
    have opens : readColonUnless false (groupsBehind (g :: groups) ++ rest) =
        some (groupText g ++ (groupsBehind groups ++ rest)) := by
      simp [groupsBehind, readColonUnless, readChar]
    rw [readGroups_cons (no_ipv4 (closed.behind (g :: groups)).1 false) opens (closed.behind groups).2,
      ih (Nat.le_of_succ_le_succ fits)]

theorem readGroups_groupsText {rest : List Char} (closed : Closed rest) (nothing : readGroup rest = none)
    (groups : List UInt16) {room : Nat} (fits : groups.length ≤ room) :
    readGroups room true (groupsText groups ++ rest) = ⟨groups, false, rest⟩ := by
  cases groups with
  | nil => exact readGroups_stop (no_ipv4 closed.pointless true) nothing room
  | cons g groups =>
    obtain ⟨room, rfl⟩ := Nat.exists_eq_add_of_le' (Nat.lt_of_lt_of_le (Nat.succ_pos _) fits)
    have opens : readColonUnless true (groupsText (g :: groups) ++ rest) =
        some (groupText g ++ (groupsBehind groups ++ rest)) := by
      simp [groupsText_cons, readColonUnless]
    have pointless : '.' ∉ groupsText (g :: groups) ++ rest := by
      rw [groupsText_cons, List.append_assoc, List.mem_append, not_or]
      exact ⟨not_mem_groupText (by decide) g, (closed.behind groups).1⟩
    rw [readGroups_cons (no_ipv4 pointless true) opens (closed.behind groups).2,
      readGroups_groupsBehind closed groups (Nat.le_of_succ_le_succ fits)]

/-! ### The zero groups that are left out -/

/-- The `length` groups from `start` on are zero. -/
def Zeros (groups : List UInt16) (start length : Nat) : Prop :=
  start + length ≤ groups.length ∧
    groups.take start ++ List.replicate length 0 ++ groups.drop (start + length) = groups

theorem zeros_at_front (groups : List UInt16) : Zeros groups 0 (zerosAtFront groups) := by
  induction groups with
  | nil => exact ⟨Nat.le_refl _, rfl⟩
  | cons g groups ih =>
    by_cases zero : g = 0
    · obtain ⟨within, same⟩ := ih
      have more : zerosAtFront (g :: groups) = zerosAtFront groups + 1 := by simp [zerosAtFront, zero]
      rw [more]
      simp only [Nat.zero_add, List.take_zero, List.nil_append] at within same
      refine ⟨by simpa using within, ?_⟩
      simp [List.replicate_succ, same, zero]
    · have none : zerosAtFront (g :: groups) = 0 := by simp [zerosAtFront, zero]
      rw [none]
      exact ⟨Nat.zero_le _, by simp⟩

theorem Zeros.cons {groups : List UInt16} {start length : Nat} (zeros : Zeros groups start length)
    (g : UInt16) : Zeros (g :: groups) (start + 1) length := by
  obtain ⟨within, same⟩ := zeros
  rw [Zeros, Nat.add_right_comm, List.take_succ_cons, List.drop_succ_cons]
  exact ⟨Nat.succ_le_succ within, congrArg (g :: ·) same⟩

theorem zeros_longestZeroRun (groups : List UInt16) :
    Zeros groups (longestZeroRun groups).1 (longestZeroRun groups).2 := by
  induction groups with
  | nil => exact ⟨Nat.le_refl _, rfl⟩
  | cons g groups ih =>
    simp only [longestZeroRun]
    split
    · exact zeros_at_front (g :: groups)
    · exact ih.cons g

/-! ### The whole address -/

theorem Closed.nil : Closed [] := ⟨List.not_mem_nil, .nil 16, rfl⟩

/-- Behind the groups in front of zeros that are left out stand two colons. -/
theorem Closed.colons {rest : List Char} (pointless : '.' ∉ rest) : Closed (':' :: ':' :: rest) := by
  refine ⟨by simpa using pointless, .cons (by decide) _, ?_⟩
  have none : NumberFormat.group.read (':' :: rest) = none := by
    simp [NumberFormat.read, show isDigitIn NumberFormat.group.base ':' = false from by decide]
  simp [readChar, readGroup, none]

theorem pointless_groupsText (groups : List UInt16) : '.' ∉ groupsText groups := by
  cases groups with
  | nil => exact List.not_mem_nil
  | cons g groups =>
    have behind := (Closed.nil.behind groups).1
    rw [List.append_nil] at behind
    rw [groupsText_cons, List.mem_append, not_or]
    exact ⟨not_mem_groupText (by decide) g, behind⟩

/-- Groups are read from their text, whether or not zeros are left out of it. -/
theorem read_segmentsText {groups : List UInt16} {ip : Ipv6} (eight : groups.length = 8)
    (made : ofSegments? groups = some ip) : read (segmentsText groups) = some (ip, []) := by
  have nothing : readGroup [] = none := rfl
  obtain ⟨within, same⟩ := zeros_longestZeroRun groups
  rw [segmentsText]
  generalize longestZeroRun groups = run at within same
  obtain ⟨start, length⟩ := run
  simp only at within same ⊢
  by_cases several : 1 < length
  · have pointless := pointless_groupsText (groups.drop (start + length))
    have front : (groups.take start).length = start := List.length_take_of_le (by omega)
    have back : (groups.drop (start + length)).length = 8 - (start + length) := by
      rw [List.length_drop, eight]
    have head := readGroups_groupsText (.colons pointless) rfl (groups.take start)
      (show (groups.take start).length ≤ 8 by omega)
    have tail := readGroups_groupsText .nil nothing (groups.drop (start + length))
      (show (groups.drop (start + length)).length ≤ 7 - start by omega)
    rw [List.append_nil] at tail
    have part : start ≠ 8 := by omega
    have missing : 8 - start - (8 - (start + length)) = length := by omega
    rw [List.append_assoc] at same
    simp [several, read, head, front, part, readChar, tail, back, missing, same, made]
  · have head := readGroups_groupsText .nil nothing groups (Nat.le_of_eq eight)
    rw [List.append_nil] at head
    simp [several, read, head, eight, made]

/-- An address that maps an IPv4 address ends in the text of that. -/
theorem read_mapped (v : Ipv4) : read ("::ffff:".toList ++ v.text) = some (v.toMapped, []) := by
  have text : "::ffff:".toList ++ v.text = ':' :: ':' :: (groupText 0xffff ++ ':' :: v.text) := rfl
  have head : readGroups 8 true (':' :: ':' :: (groupText 0xffff ++ ':' :: v.text)) =
      ⟨[], false, ':' :: ':' :: (groupText 0xffff ++ ':' :: v.text)⟩ := readGroups_stop rfl rfl 8
  have octets : readGroups 6 false (':' :: v.text) = ⟨v.groups, true, []⟩ := by
    have front := v.read_text (.nil 10)
    rw [List.append_nil] at front
    exact readGroups_ipv4 (by simpa [readColonUnless, readChar] using front) 4
  have tail : readGroups 7 true (groupText 0xffff ++ ':' :: v.text) = ⟨0xffff :: v.groups, true, []⟩ := by
    have group : readColonUnless true (groupText 0xffff ++ ':' :: v.text) =
        some (groupText 0xffff ++ ':' :: v.text) := rfl
    rw [readGroups_cons rfl group (.cons (by decide) _), octets]
  have made : ofSegments? (0 :: 0 :: 0 :: 0 :: 0 :: 0xffff :: v.groups) = some v.toMapped := by
    simp [ofSegments?, Ipv4.groups, Ipv4.toMapped, mappedHead, Ipv4.octets]
    rfl
  have two : v.groups.length = 2 := rfl
  rw [text]
  simp [read, head, tail, readChar, two, made]

theorem flatMap_toBytes_pairs : ∀ {bytes : Bytes}, bytes.length % 2 = 0 →
    (Word.pairs bytes).flatMap Word.toBytes = bytes
  | [], _ => rfl
  | [_], odd => by cases odd
  | hi :: lo :: rest, even => by
    have even' : rest.length % 2 = 0 := by
      simp only [List.length_cons] at even
      omega
    simp [Word.pairs, flatMap_toBytes_pairs even']

theorem length_pairs : ∀ bytes : Bytes, (Word.pairs bytes).length = bytes.length / 2
  | [] => rfl
  | [_] => by simp [Word.pairs]
  | hi :: lo :: rest => by
    rw [Word.pairs, List.length_cons, length_pairs rest, List.length_cons, List.length_cons]
    omega

theorem ofSegments?_segments (ip : Ipv6) : ofSegments? ip.segments = some ip := by
  obtain ⟨octets, length⟩ := ip
  have eight : (Word.pairs octets).length = 8 := by rw [length_pairs, length]
  have same : (Word.pairs octets).flatMap Word.toBytes = octets := flatMap_toBytes_pairs (by rw [length])
  simp only [segments, ofSegments?, eight, same, dif_pos]

theorem read_text (ip : Ipv6) : read ip.text = some (ip, []) := by
  unfold text
  cases maps : ip.mapped? with
  | some v =>
    rw [mapped?_eq_some_iff.1 maps]
    exact read_mapped v
  | none =>
    have eight : ip.segments.length = 8 := by rw [segments, length_pairs, ip.length_octets]
    exact read_segmentsText eight (ofSegments?_segments ip)

theorem pointless_segmentsText (groups : List UInt16) : '.' ∉ segmentsText groups := by
  simp only [segmentsText]
  split
  · simp [pointless_groupsText]
  · exact pointless_groupsText groups

/-- No IPv6 address is taken for an IPv4 address. -/
theorem ipv4_read_text (ip : Ipv6) : Ipv4.read ip.text = none := by
  unfold text
  cases ip.mapped? with
  | some v => rfl
  | none => exact Ipv4.read_eq_none (pointless_segmentsText ip.segments)

end Ipv6

/-- **An address is read back from its text.** -/
theorem IpAddress.ofText?_text (ip : IpAddress) : ofText? ip.text = some ip := by
  cases ip with
  | v4 ip =>
    have front := ip.read_text (.nil 10)
    rw [List.append_nil] at front
    simp [ofText?, readAll, read, text, front]
  | v6 ip => simp [ofText?, readAll, read, text, ip.ipv4_read_text, ip.read_text]

end TransportConverter
