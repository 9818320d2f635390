import Mathlib.Data.List.Forall2
import TransportConverter.Json.Printer
import TransportConverter.Json.Token
import TransportConverter.Proofs.Text.Digits
/-!
# The tokens of a printed value

A value that is written over several lines is scanned into its tokens again: the lines and the spaces in
front of them count for nothing, a string keeps its characters whatever they are, and a word ends where the
next character is none of its own. The main result is `JsonToken.scan_layout`. It is proved of a text with
anything behind it that no word goes on with (`JsonToken.Scans`), since that is how a value stands in
another.
-/
namespace TransportConverter

/-! ## Folds that go on -/

section Fold

variable {α σ : Type} {f : σ → α → Option σ} {s s' : σ}

theorem foldlM_step {a : α} (step : f s a = some s') (rest : List α) :
    (a :: rest).foldlM f s = rest.foldlM f s' := by
  rw [List.foldlM_cons, step]
  rfl

theorem foldlM_steps {front : List α} (steps : front.foldlM f s = some s') (rest : List α) :
    (front ++ rest).foldlM f s = rest.foldlM f s' := by
  rw [List.foldlM_append, steps]
  rfl

end Fold

namespace JsonToken

open JsonValue (escape quoted brokenText controlDigits)

/-- All tokens of a text that has been scanned up to `cs`. -/
def scanFrom (s : Scanner) (cs : List Char) : Option (List JsonToken) :=
  (cs.foldlM Scanner.step s).bind Scanner.finish

/-- Behind `tokens`, with nothing begun. -/
def between (tokens : List JsonToken) : Scanner := ⟨tokens, .between⟩

/-- No word goes on with this. -/
def NoWord (rest : List Char) : Prop := ∀ c ∈ rest.head?, isWordChar c = false

/-- The text is scanned as these tokens wherever no word goes on behind it. -/
def Scans (text : List Char) (scanned : List JsonToken) : Prop :=
  ∀ tokens rest, NoWord rest →
    scanFrom (between tokens) (text ++ rest) = scanFrom (between (scanned.reverse ++ tokens)) rest

variable {s s' : Scanner} {c : Char} {cs rest : List Char} {tokens : List JsonToken}

theorem scanFrom_nil (s : Scanner) : scanFrom s [] = s.finish := rfl

theorem scanFrom_step (steps : s.step c = some s') (cs : List Char) :
    scanFrom s (c :: cs) = scanFrom s' cs := by
  rw [scanFrom, foldlM_step steps, scanFrom]

theorem scanFrom_steps (steps : cs.foldlM Scanner.step s = some s') (rest : List Char) :
    scanFrom s (cs ++ rest) = scanFrom s' rest := by
  rw [scanFrom, foldlM_steps steps, scanFrom]

theorem NoWord.cons (other : isWordChar c = false) (rest : List Char) : NoWord (c :: rest) := by
  simpa [NoWord] using other

/-! ## Spaces and brackets -/

/-- A character that no word is made of is taken as it is. -/
theorem scanFrom_outside (other : isWordChar c = false) (steps : (between tokens).outside c = some s')
    (rest : List Char) : scanFrom (between tokens) (c :: rest) = scanFrom s' rest := by
  refine scanFrom_step ?_ rest
  rw [← steps]
  simp [between, Scanner.step, other]

theorem isWordChar_of_isSpace (space : isSpace c = true) : isWordChar c = false := by
  simp only [isSpace, Bool.or_eq_true, decide_eq_true_eq] at space
  obtain ((rfl | rfl) | rfl) | rfl := space <;> decide

theorem scanFrom_space (space : isSpace c = true) (rest : List Char) :
    scanFrom (between tokens) (c :: rest) = scanFrom (between tokens) rest := by
  refine scanFrom_outside (isWordChar_of_isSpace space) ?_ rest
  rw [Scanner.outside, if_pos space]

theorem scanFrom_lineStart (depth : Nat) (rest : List Char) :
    scanFrom (between tokens) (JsonValue.lineStart depth ++ rest) = scanFrom (between tokens) rest := by
  rw [JsonValue.lineStart, List.cons_append, scanFrom_space (by decide)]
  induction 2 * depth with
  | zero => rfl
  | succ n ih => rw [List.replicate_succ, List.cons_append, scanFrom_space (by decide), ih]

/-- The characters that are tokens by themselves. -/
theorem bracket_cases {token : JsonToken} (bracket : bracket? c = some token) :
    isWordChar c = false ∧ isSpace c = false ∧ c ≠ '"' := by
  unfold bracket? at bracket
  split at bracket <;> first | decide | cases bracket

theorem scanFrom_bracket {token : JsonToken} (bracket : bracket? c = some token) (rest : List Char) :
    scanFrom (between tokens) (c :: rest) = scanFrom (between (token :: tokens)) rest := by
  obtain ⟨other, tight, unquoted⟩ := bracket_cases bracket
  refine scanFrom_outside other ?_ rest
  simp [Scanner.outside, tight, unquoted, bracket, between]

/-! ## Words -/

theorem foldlM_inWord (tokens : List JsonToken) (word : List Char)
    (letters : ∀ c ∈ word, isWordChar c = true) (begun : List Char) :
    word.foldlM Scanner.step ⟨tokens, .inWord begun⟩ = some ⟨tokens, .inWord (word.reverse ++ begun)⟩ := by
  induction word generalizing begun with
  | nil => rfl
  | cons c word ih =>
    have letter := letters c (List.mem_cons_self ..)
    have others := fun d mem => letters d (List.mem_cons_of_mem c mem)
    have first : Scanner.step ⟨tokens, .inWord begun⟩ c = some ⟨tokens, .inWord (c :: begun)⟩ := by
      simp [Scanner.step, letter]
    rw [foldlM_step first]
    simpa using ih others (c :: begun)

/-- A word ends where another character comes, or the text ends. -/
theorem scanFrom_inWord {begun : List Char} {value : JsonValue} (means : word? begun.reverse = some value)
    (ends : NoWord rest) :
    scanFrom ⟨tokens, .inWord begun⟩ rest = scanFrom (between (word value :: tokens)) rest := by
  have ended : Scanner.endWord ⟨tokens, .inWord begun⟩ = some (between (word value :: tokens)) := by
    simp [Scanner.endWord, means, between]
  cases rest with
  | nil =>
    rw [scanFrom_nil, scanFrom_nil, Scanner.finish, ended]
    rfl
  | cons c rest =>
    have other : isWordChar c = false := ends c rfl
    have step : Scanner.step ⟨tokens, .inWord begun⟩ c = (between (word value :: tokens)).outside c := by
      simp [Scanner.step, other, ended]
    have same : (between (word value :: tokens)).step c = (between (word value :: tokens)).outside c := by
      simp [between, Scanner.step, other]
    rw [scanFrom, scanFrom, List.foldlM_cons, List.foldlM_cons, step, same]

theorem scans_word {text : List Char} {value : JsonValue} (means : word? text = some value)
    (letters : ∀ c ∈ text, isWordChar c = true) (some : text ≠ []) : Scans text [word value] := by
  intro tokens rest ends
  obtain ⟨c, text, rfl⟩ := List.exists_cons_of_ne_nil some
  have letter := letters c (List.mem_cons_self ..)
  have first : (between tokens).step c = Option.some ⟨tokens, .inWord [c]⟩ := by
    simp [between, Scanner.step, letter]
  have others := foldlM_inWord tokens text
    (fun d mem => letters d (List.mem_cons_of_mem c mem)) [c]
  rw [List.cons_append, scanFrom_step first, scanFrom_steps others]
  exact scanFrom_inWord (by simpa using means) ends

/-! ## Strings -/

/-- What the scanner keeps of a character: the character, or its number if it was written by that. -/
inductive StandsFor : Piece → Char → Prop
  | char (c : Char) : StandsFor (.char c) c
  | unit (c : Char) (low : c.toNat < 0x20) : StandsFor (.unit c.toNat) c

theorem join_unit {code : Nat} (whole : isHighSurrogate code = false) (alone : isLowSurrogate code = false)
    (pieces : List Piece) : join (.unit code :: pieces) = (join pieces).map (Char.ofNat code :: ·) := by
  rcases pieces with _ | ⟨_ | _, pieces⟩ <;> simp [join, whole, alone]

theorem join_of_standFor {pieces : List Piece} {cs : List Char} (stand : List.Forall₂ StandsFor pieces cs) :
    join pieces = some cs := by
  induction stand with
  | nil => rfl
  | @cons _ c _ _ first _ ih =>
    cases first with
    | char => rw [join, ih, Option.map_some]
    | unit _ low =>
      have whole : isHighSurrogate c.toNat = false := by
        simp only [isHighSurrogate, Bool.and_eq_false_iff, decide_eq_false_iff_not]
        omega
      have alone : isLowSurrogate c.toNat = false := by
        simp only [isLowSurrogate, Bool.and_eq_false_iff, decide_eq_false_iff_not]
        omega
      rw [join_unit whole alone, ih, Option.map_some, Char.ofNat_toNat]

section Digits
variable {d value : Nat} {pieces : List Piece}

theorem step_digit (small : d < 16) {count : Nat} (early : count ≠ 3) :
    Scanner.step ⟨tokens, .inEscape pieces count value⟩ d.digitChar =
      some ⟨tokens, .inEscape pieces (count + 1) (16 * value + d)⟩ := by
  simp [Scanner.step, digitValue_digitChar small, small, early]

theorem step_lastDigit (small : d < 16) :
    Scanner.step ⟨tokens, .inEscape pieces 3 value⟩ d.digitChar =
      some ⟨tokens, .inString (.unit (16 * value + d) :: pieces)⟩ := by
  simp [Scanner.step, digitValue_digitChar small, small]

/-- The digits of a control character give its number. -/
theorem foldlM_controlDigits {n : Nat} (low : n < 0x20) :
    (controlDigits n).foldlM Scanner.step ⟨tokens, .inEscape pieces 0 0⟩ =
      some ⟨tokens, .inString (.unit n :: pieces)⟩ := by
  have zero : '0' = Nat.digitChar 0 := rfl
  have whole : 16 * (16 * (16 * (16 * 0 + 0) + 0) + n / 16) + n % 16 = n := by omega
  rw [controlDigits, zero, foldlM_step (step_digit (by decide) (by decide)),
    foldlM_step (step_digit (by decide) (by decide)), foldlM_step (step_digit (by omega) (by decide)),
    foldlM_step (step_lastDigit (by omega)), whole]
  rfl

end Digits

/-- A character is written with a letter of its own behind a backslash, by its number or as it is. -/
theorem escape_cases (c : Char) :
    (∃ letter, escape c = ['\\', letter] ∧ letter ≠ 'u' ∧ unescape? letter = some c) ∨
    (escape c = '\\' :: 'u' :: controlDigits c.toNat ∧ c.toNat < 0x20) ∨
    (escape c = [c] ∧ c ≠ '"' ∧ c ≠ '\\' ∧ 0x20 ≤ c.toNat) := by
  unfold escape
  repeat' split
  iterate 7
    · subst_vars
      exact .inl ⟨_, rfl, by decide, rfl⟩
  · rename_i low
    exact .inr (.inl ⟨rfl, low⟩)
  · rename_i unquoted unescaped _ _ _ _ _ high
    exact .inr (.inr ⟨rfl, unquoted, unescaped, Nat.le_of_not_lt high⟩)

/-- A character of a string, with its escape taken back. -/
theorem foldlM_escape (tokens : List JsonToken) (c : Char) (pieces : List Piece) :
    ∃ piece, StandsFor piece c ∧
      (escape c).foldlM Scanner.step ⟨tokens, .inString pieces⟩ =
        some ⟨tokens, .inString (piece :: pieces)⟩ := by
  obtain ⟨letter, written, short, back⟩ | ⟨written, low⟩ | ⟨written, unquoted, unescaped, high⟩ :=
    escape_cases c
  · refine ⟨.char c, .char c, ?_⟩
    simp [written, Scanner.step, short, back]
  · refine ⟨.unit c.toNat, .unit c low, ?_⟩
    have begun : Scanner.step ⟨tokens, .inString pieces⟩ '\\' = some ⟨tokens, .behindBackslash pieces⟩ := rfl
    have numbered : Scanner.step ⟨tokens, .behindBackslash pieces⟩ 'u' =
        some ⟨tokens, .inEscape pieces 0 0⟩ := rfl
    rw [written, foldlM_step begun, foldlM_step numbered, foldlM_controlDigits low]
  · refine ⟨.char c, .char c, ?_⟩
    simp [written, Scanner.step, unquoted, unescaped, Nat.not_lt_of_le high]

theorem foldlM_escapes (tokens : List JsonToken) (cs : List Char) (pieces : List Piece) :
    ∃ more, List.Forall₂ StandsFor more cs ∧
      (cs.flatMap escape).foldlM Scanner.step ⟨tokens, .inString pieces⟩ =
        some ⟨tokens, .inString (more.reverse ++ pieces)⟩ := by
  induction cs generalizing pieces with
  | nil => exact ⟨[], .nil, rfl⟩
  | cons c cs ih =>
    obtain ⟨piece, stands, first⟩ := foldlM_escape tokens c pieces
    obtain ⟨more, stand, others⟩ := ih (piece :: pieces)
    refine ⟨piece :: more, .cons stands stand, ?_⟩
    rw [List.flatMap_cons, foldlM_steps first]
    simpa using others

/-- A string ends at the quote that is not escaped. -/
theorem scanFrom_quote (pieces : List Piece) (rest : List Char) :
    scanFrom ⟨tokens, .inString pieces⟩ ('"' :: rest) =
      scanFrom (between (string ((join pieces.reverse).map String.ofList) :: tokens)) rest :=
  scanFrom_step rfl rest

/-- **A string is scanned as it was**, and what is no text as no text. -/
theorem scanFrom_quoted (text : Option String) (rest : List Char) :
    scanFrom (between tokens) (quoted text ++ rest) = scanFrom (between (string text :: tokens)) rest := by
  have opens (cs : List Char) : scanFrom (between tokens) ('"' :: cs) = scanFrom ⟨tokens, .inString []⟩ cs :=
    scanFrom_step rfl cs
  cases text with
  | some s =>
    obtain ⟨pieces, stand, inner⟩ := foldlM_escapes tokens s.toList []
    have shape : quoted (some s) ++ rest = '"' :: (s.toList.flatMap escape ++ '"' :: rest) := by
      simp [quoted]
    rw [shape, opens, scanFrom_steps inner, scanFrom_quote, List.append_nil, List.reverse_reverse,
      join_of_standFor stand, Option.map_some, String.ofList_toList]
  | none =>
    have shape : quoted none ++ rest = '"' :: (brokenText ++ '"' :: rest) := by
      simp [quoted]
    have inner : brokenText.foldlM Scanner.step ⟨tokens, .inString []⟩ =
        some ⟨tokens, .inString [.unit 0xd800]⟩ := rfl
    rw [shape, opens, scanFrom_steps inner, scanFrom_quote]
    rfl

/-! ## Values -/

/-- The tokens between brackets, with commas between those of each item. -/
def separated : List (List JsonToken) → List JsonToken
  | [] => []
  | first :: others => first ++ others.flatMap (comma :: ·)

mutual

/-- The tokens of a value. -/
def ofValue : JsonValue → List JsonToken
  | .string text => [string text]
  | .array items => openArray :: separated (ofItems items) ++ [closeArray]
  | .object members => openObject :: separated (ofMembers members) ++ [closeObject]
  | value => [word value]

def ofItems : List JsonValue → List (List JsonToken)
  | [] => []
  | item :: items => ofValue item :: ofItems items

def ofMembers : List (Option String × JsonValue) → List (List JsonToken)
  | [] => []
  | (key, value) :: members => (string key :: colon :: ofValue value) :: ofMembers members

end

theorem ofItems_eq_map (items : List JsonValue) : ofItems items = items.map ofValue := by
  induction items with
  | nil => rfl
  | cons item items ih => rw [ofItems, ih, List.map_cons]

theorem ofMembers_eq_map (members : List (Option String × JsonValue)) :
    ofMembers members = members.map fun m => string m.1 :: colon :: ofValue m.2 := by
  induction members with
  | nil => rfl
  | cons member members ih => rw [ofMembers, ih, List.map_cons]

end JsonToken

namespace JsonValue

theorem layoutItems_eq_map (depth : Nat) (items : List JsonValue) :
    layoutItems depth items = items.map (layout depth) := by
  induction items with
  | nil => rfl
  | cons item items ih => rw [layoutItems, ih, List.map_cons]

theorem layoutMembers_eq_map (depth : Nat) (members : List (Option String × JsonValue)) :
    layoutMembers depth members =
      members.map fun m => quoted m.1 ++ [':', ' '] ++ layout depth m.2 := by
  induction members with
  | nil => rfl
  | cons member members ih => rw [layoutMembers, ih, List.map_cons]

/-- The numbers in a value are written as numbers, so that it has a text. -/
inductive Writable : JsonValue → Prop
  | null : Writable .null
  | bool (value : Bool) : Writable (.bool value)
  | number {literal : List Char} (means : JsonToken.word? literal = some (.number literal))
      (letters : ∀ c ∈ literal, JsonToken.isWordChar c = true) : Writable (.number literal)
  | string (text : Option String) : Writable (.string text)
  | array {items : List JsonValue} (each : ∀ item ∈ items, Writable item) : Writable (.array items)
  | object {members : List (Option String × JsonValue)} (each : ∀ m ∈ members, Writable m.2) :
      Writable (.object members)

end JsonValue

namespace JsonToken

open JsonValue (block layout lineStart quoted Writable)

/-! ### Lines between brackets -/

/-- Each line on its own, behind a comma. -/
def behindCommas (depth : Nat) (lines : List (List Char)) : List Char :=
  lines.flatMap fun line => ',' :: (lineStart depth ++ line)

theorem intercalate_lines (depth : Nat) (line : List Char) (lines : List (List Char)) :
    [','].intercalate ((line :: lines).map (lineStart depth ++ ·)) =
      lineStart depth ++ line ++ behindCommas depth lines := by
  induction lines generalizing line with
  | nil => simp [behindCommas, List.intercalate]
  | cons next lines ih =>
    rw [List.map_cons, List.map_cons, List.intercalate_cons_cons, ← List.map_cons, ih]
    simp [behindCommas]

theorem block_cons (opening closing : Char) (depth : Nat) (line : List Char) (lines : List (List Char)) :
    block opening closing depth (line :: lines) =
      opening :: (lineStart (depth + 1) ++ line ++ behindCommas (depth + 1) lines) ++ lineStart depth ++
        [closing] := by
  rw [← intercalate_lines]
  rfl

theorem NoWord.behindCommas {depth : Nat} {lines : List (List Char)} (ends : NoWord rest) :
    NoWord (behindCommas depth lines ++ rest) := by
  cases lines with
  | nil => exact ends
  | cons line lines => exact NoWord.cons (by decide) _

theorem scanFrom_behindCommas {depth : Nat} {lines : List (List Char)} {scanned : List (List JsonToken)}
    (each : List.Forall₂ Scans lines scanned) (ends : NoWord rest) (tokens : List JsonToken) :
    scanFrom (between tokens) (behindCommas depth lines ++ rest) =
      scanFrom (between ((scanned.flatMap (comma :: ·)).reverse ++ tokens)) rest := by
  induction each generalizing tokens with
  | nil => rfl
  | @cons line taken lines scanned first _ ih =>
    have shape : behindCommas depth (line :: lines) ++ rest =
        ',' :: (lineStart depth ++ (line ++ (behindCommas depth lines ++ rest))) := by
      simp [behindCommas]
    rw [shape, scanFrom_bracket rfl, scanFrom_lineStart, first _ _ ends.behindCommas, ih]
    simp

theorem scans_block {opening closing : Char} {opens closes : JsonToken} (begun : bracket? opening = some opens)
    (ended : bracket? closing = some closes) (depth : Nat) {lines : List (List Char)}
    {scanned : List (List JsonToken)} (each : List.Forall₂ Scans lines scanned) :
    Scans (block opening closing depth lines) (opens :: separated scanned ++ [closes]) := by
  intro tokens rest _
  cases each with
  | nil => simp [block, separated, scanFrom_bracket begun, scanFrom_bracket ended]
  | @cons line taken lines scanned first others =>
    have ends : NoWord (lineStart depth ++ closing :: rest) := NoWord.cons (by decide) _
    have shape : block opening closing depth (line :: lines) ++ rest =
        opening :: (lineStart (depth + 1) ++ (line ++ (behindCommas (depth + 1) lines ++
          (lineStart depth ++ closing :: rest)))) := by
      simp [block_cons]
    rw [shape, scanFrom_bracket begun, scanFrom_lineStart, first _ _ ends.behindCommas,
      scanFrom_behindCommas others ends, scanFrom_lineStart, scanFrom_bracket ended]
    simp [separated]

/-! ### A whole value -/

theorem scans_quoted (text : Option String) : Scans (quoted text) [string text] :=
  fun _ rest _ => scanFrom_quoted text rest

theorem scans_member (key : Option String) {text : List Char} {scanned : List JsonToken}
    (value : Scans text scanned) :
    Scans (quoted key ++ [':', ' '] ++ text) (string key :: colon :: scanned) := by
  intro tokens rest ends
  have shape : quoted key ++ [':', ' '] ++ text ++ rest = quoted key ++ ':' :: ' ' :: (text ++ rest) := by
    simp
  rw [shape, scanFrom_quoted, scanFrom_bracket rfl, scanFrom_space (by decide), value _ _ ends]
  simp

/-- A value is scanned into its tokens, at any depth. -/
theorem scans_layout {v : JsonValue} (writable : Writable v) (depth : Nat) :
    Scans (layout depth v) (ofValue v) := by
  induction writable generalizing depth with
  | null =>
    change Scans ['n', 'u', 'l', 'l'] [word .null]
    exact scans_word rfl (List.all_eq_true.mp rfl) (by decide)
  | bool value =>
    cases value with
    | false =>
      change Scans ['f', 'a', 'l', 's', 'e'] [word (.bool false)]
      exact scans_word rfl (List.all_eq_true.mp rfl) (by decide)
    | true =>
      change Scans ['t', 'r', 'u', 'e'] [word (.bool true)]
      exact scans_word rfl (List.all_eq_true.mp rfl) (by decide)
  | @number literal means letters =>
    refine scans_word means letters ?_
    rintro rfl
    cases means
  | string text => exact scans_quoted text
  | @array items each ih =>
    rw [layout, ofValue, JsonValue.layoutItems_eq_map, ofItems_eq_map]
    refine scans_block rfl rfl depth ?_
    rw [List.forall₂_map_left_iff, List.forall₂_map_right_iff, List.forall₂_same]
    exact fun item mem => ih item mem (depth + 1)
  | @object members each ih =>
    rw [layout, ofValue, JsonValue.layoutMembers_eq_map, ofMembers_eq_map]
    refine scans_block rfl rfl depth ?_
    rw [List.forall₂_map_left_iff, List.forall₂_map_right_iff, List.forall₂_same]
    exact fun m mem => scans_member m.1 (ih m mem (depth + 1))

/-- **A printed value is scanned into the tokens of the value.** -/
theorem scan_layout {v : JsonValue} (writable : Writable v) : scan (layout 0 v) = some (ofValue v) := by
  have whole := scans_layout writable 0 [] [] (by simp [NoWord])
  rw [List.append_nil, List.append_nil] at whole
  calc scan (layout 0 v)
      = scanFrom (between (ofValue v).reverse) [] := whole
    _ = some (ofValue v) := by simp [scanFrom_nil, Scanner.finish, Scanner.endWord, between]

end JsonToken

end TransportConverter
