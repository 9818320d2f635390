import TransportConverter.Digits
/-!
# Numbers and their digits

A number is read back from its digits (`digitsValue_toDigits`), in each base that has a digit of its own for
every value below it. The digits of a number begin with a zero only if they are that zero.
-/
namespace TransportConverter

variable {base n : Nat} {c : Char}

theorem digitValue_digitChar (small : n < 16) : digitValue n.digitChar = n := by
  have all : ∀ d : Fin 16, digitValue d.val.digitChar = d.val := by decide
  exact all ⟨n, small⟩

theorem digitsValue_append_digit (digits : List Char) (c : Char) :
    digitsValue base (digits ++ [c]) = digitsValue base digits * base + digitValue c := by
  rw [digitsValue, List.foldl_append]
  rfl

/-- The digits of a number, but for the last one, are those of the number without it. -/
theorem toDigits_digit (one : 1 < base) {d : Nat} (pos : 0 < n) (small : d < base) :
    Nat.toDigits base (base * n + d) = Nat.toDigits base n ++ [d.digitChar] := by
  rw [← Nat.toDigits_append_toDigits one pos small, Nat.toDigits_of_lt_base small]

theorem digitsValue_toDigits (one : 1 < base) (hex : base ≤ 16) (n : Nat) :
    digitsValue base (Nat.toDigits base n) = n := by
  induction n using Nat.base_induction base one with
  | single d small =>
    rw [Nat.toDigits_of_lt_base small]
    simp only [digitsValue, List.foldl_cons, List.foldl_nil, Nat.zero_mul, Nat.zero_add,
      digitValue_digitChar (Nat.lt_of_lt_of_le small hex)]
  | digit n d small pos ih =>
    rw [toDigits_digit one pos small, digitsValue_append_digit, ih,
      digitValue_digitChar (Nat.lt_of_lt_of_le small hex), Nat.mul_comm]

theorem isDigitIn_of_mem_toDigits (one : 1 < base) (hex : base ≤ 16)
    (mem : c ∈ Nat.toDigits base n) : isDigitIn base c = true := by
  have digit {d : Nat} (small : d < base) : isDigitIn base d.digitChar = true := by
    rw [isDigitIn, digitValue_digitChar (Nat.lt_of_lt_of_le small hex)]
    exact decide_eq_true small
  induction n using Nat.base_induction base one with
  | single d small =>
    rw [Nat.toDigits_of_lt_base small, List.mem_singleton] at mem
    exact mem ▸ digit small
  | digit n d small pos ih =>
    rw [toDigits_digit one pos small, List.mem_append, List.mem_singleton] at mem
    rcases mem with mem | rfl
    · exact ih mem
    · exact digit small

/-- Only zero begins with one. -/
theorem head?_toDigits (one : 1 < base) (hex : base ≤ 16) (nonzero : n ≠ 0) :
    (Nat.toDigits base n).head? ≠ some '0' := by
  induction n using Nat.base_induction base one with
  | single d small =>
    rw [Nat.toDigits_of_lt_base small, List.head?_cons, ne_eq, Option.some.injEq]
    intro zero
    have value := digitValue_digitChar (Nat.lt_of_lt_of_le small hex)
    rw [zero] at value
    exact nonzero value.symm
  | digit n d small pos ih =>
    obtain ⟨c, cs, front⟩ := List.exists_cons_of_ne_nil (Nat.toDigits_ne_nil (n := n) (b := base))
    have := ih (Nat.ne_of_gt pos)
    rw [front] at this
    rwa [toDigits_digit one pos small, front, List.cons_append]

end TransportConverter
