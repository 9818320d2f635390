import TransportConverter.Digits
import TransportConverter.Text.Alphanumeric
import TransportConverter.Text.Blank
/-!
# Patterns

Log directives may ask for a value of a field, by a number or by a regular expression
(`isValuePattern`). Which texts are regular expressions is decided here; nothing is ever matched.

An expression is read from left to right (`PatternReader.accepts`). What is allowed depends on the
flags in force: Unicode mode is on unless it is turned off, and in it there are no classes by
property and no case folding, since those need tables that logging goes without. Out of Unicode mode,
on the other hand, an expression must not match single bytes that are no characters. Word boundaries
need ASCII, too.
-/
namespace TransportConverter

/-! ## Numbers -/

/-- What follows an exponent's letter. -/
def isExponent (cs : List Char) : Bool :=
  let digits := match cs with
    | '+' :: digits | '-' :: digits => digits
    | digits => digits
  !digits.isEmpty && digits.all Char.isDigit

/-- A number in decimal, with or without a fraction and an exponent, or the name of a special one. -/
def isNumber (cs : List Char) : Bool :=
  let magnitude := match cs with
    | '+' :: rest | '-' :: rest => rest
    | rest => rest
  let whole := magnitude.takeWhile Char.isDigit
  let (fraction, rest) := match magnitude.dropWhile Char.isDigit with
    | '.' :: rest => (rest.takeWhile Char.isDigit, rest.dropWhile Char.isDigit)
    | rest => ([], rest)
  ["inf", "infinity", "nan"].contains (String.ofList (magnitude.map Char.toLower)) ||
    (!(whole.isEmpty && fraction.isEmpty) &&
      match rest with
      | [] => true
      | 'e' :: exponent | 'E' :: exponent => isExponent exponent
      | _ => false)

/-! ## Flags -/

/-- The flags that decide what is allowed. -/
structure PatternFlags where
  foldsCase : Bool := false
  unicode : Bool := true
  /-- Blanks and comments are passed over. -/
  verbose : Bool := false
  deriving DecidableEq, Repr

namespace PatternFlags

/-- Every flag there is. -/
def letters : List Char := ['i', 'm', 's', 'U', 'u', 'R', 'x']

/-- The letters of a group, up to its colon or to the end of the group: no letter twice, and one dash
at most, in front of a letter. The answer is the flags, whether there were letters, and what follows
them. -/
def read (flags : PatternFlags) (seen : List Char) : List Char →
    Option (PatternFlags × Bool × List Char)
  | [] => none
  | ':' :: rest => if seen.head? = some '-' then none else some (flags, !seen.isEmpty, ':' :: rest)
  | ')' :: rest => if seen.head? = some '-' then none else some (flags, !seen.isEmpty, ')' :: rest)
  | c :: rest =>
    if seen.contains c || !(c = '-' || letters.contains c) then none
    else
      let on := !seen.contains '-'
      let flags := match c with
        | 'i' => { flags with foldsCase := on }
        | 'u' => { flags with unicode := on }
        | 'x' => { flags with verbose := on }
        | _ => flags
      flags.read (c :: seen) rest

/-- Text without the blanks and the comments that it begins with, where they count for nothing. -/
def skip (flags : PatternFlags) (cs : List Char) : List Char :=
  if flags.verbose then drop false cs else cs
where
  drop (inComment : Bool) : List Char → List Char
    | [] => []
    | c :: rest =>
      if inComment then drop (c ≠ '\n') rest
      else if isBlank c then drop false rest
      else if c = '#' then drop true rest
      else c :: rest

/-- Whether a character may stand for itself. `byte` says that it is written as a byte. -/
def allowsLiteral (flags : PatternFlags) (c : Char) (byte : Bool) : Bool :=
  if flags.unicode then !flags.foldsCase else !byte || c.toNat < 128

/-- Whether a character may be in a class. -/
def allowsMember (flags : PatternFlags) (c : Char) : Bool :=
  if flags.unicode then !flags.foldsCase else c.toNat < 128

end PatternFlags

/-! ## Escapes -/

/-- What a backslash and what follows it stand for. -/
inductive PatternEscape where
  | literal (c : Char) (byte : Bool)
  /-- One of the classes of digits, blanks and word characters, or its complement. -/
  | shorthand (negated : Bool)
  | property
  | wordBoundary
  | textBoundary
  deriving DecidableEq, Repr

namespace PatternEscape

/-- The character with a number in base sixteen of so many digits. -/
def readHex (flags : PatternFlags) : Nat → Nat → List Char → Option (Char × List Char)
  | 0, n, rest => if n.isValidChar then some (Char.ofNat n, rest) else none
  | count + 1, n, rest =>
    match flags.skip rest with
    | c :: rest => if isDigitIn 16 c then readHex flags count (n * 16 + digitValue c) rest else none
    | [] => none

/-- What can stand behind a backslash as itself: whatever else is in ASCII. -/
def isPlain (c : Char) : Bool := c.toNat < 128 && !c.isAlphanum && c ≠ '<' && c ≠ '>'

/-- What a letter stands for that a control character is written with. -/
def control? (c : Char) : Option Char :=
  [('a', '\x07'), ('f', '\x0c'), ('t', '\t'), ('n', '\n'), ('r', '\r'), ('v', '\x0b')].lookup c

/-- Reads what follows a backslash. -/
def read (flags : PatternFlags) : List Char → Option (PatternEscape × List Char)
  | [] => none
  | 'x' :: rest => (readHex flags 2 0 rest).map fun (c, rest) => (literal c true, rest)
  | 'u' :: rest => (readHex flags 4 0 rest).map fun (c, rest) => (literal c false, rest)
  | 'U' :: rest => (readHex flags 8 0 rest).map fun (c, rest) => (literal c false, rest)
  | 'p' :: rest | 'P' :: rest =>
    match flags.skip rest with
    | [] | '\\' :: _ => none
    | _ :: rest => some (property, rest)
  | 'A' :: rest | 'z' :: rest => some (textBoundary, rest)
  | 'b' :: rest | 'B' :: rest | '<' :: rest | '>' :: rest => some (wordBoundary, rest)
  | c :: rest =>
    if c ∈ ['d', 's', 'w'] then some (shorthand false, rest)
    else if c ∈ ['D', 'S', 'W'] then some (shorthand true, rest)
    else if isPlain c then some (literal c false, rest)
    else (control? c).map fun c => (literal c false, rest)

/-- Whether an escape may stand outside a class. -/
def allowed (flags : PatternFlags) : PatternEscape → Bool
  | literal c byte => flags.allowsLiteral c byte
  | shorthand negated => !flags.unicode && !negated
  | property => false
  | wordBoundary => !flags.unicode
  | textBoundary => true

end PatternEscape

/-! ## Classes -/

namespace PatternClass

/-- The named classes of ASCII. -/
def names : List String :=
  ["alnum", "alpha", "ascii", "blank", "cntrl", "digit", "graph", "lower", "print", "punct", "space",
    "upper", "word", "xdigit"]

/-- Reads a named class behind its opening bracket: whether it is negated, and what follows it. -/
def named? : List Char → Option (Bool × List Char)
  | ':' :: rest =>
    let (negated, rest) := match rest with
      | '^' :: rest => (true, rest)
      | rest => (false, rest)
    match rest.dropWhile (· ≠ ':') with
    | ':' :: ']' :: after =>
      if names.contains (String.ofList (rest.takeWhile (· ≠ ':'))) then some (negated, after)
      else none
    | _ => none
  | _ => none

/-- A member of a class: a character of its own, or a class by itself. -/
def member (flags : PatternFlags) : List Char → Option (Option Char × List Char)
  | [] => none
  | '\\' :: rest =>
    match PatternEscape.read flags rest with
    | some (.literal c _, rest) => if flags.allowsMember c then some (some c, rest) else none
    | some (.shorthand negated, rest) =>
      if (PatternEscape.shorthand negated).allowed flags then some (none, rest) else none
    | _ => none
  | c :: rest => if flags.allowsMember c then some (some c, rest) else none

/-- Reads a member or a range, of which the end is not before the beginning. A dash that another dash
or the end of the class follows makes no range. -/
def item (flags : PatternFlags) (cs : List Char) : Option (List Char) := do
  let (first, rest) ← member flags cs
  match flags.skip rest with
  | '-' :: more =>
    match flags.skip more with
    | ']' :: _ | '-' :: _ => return rest
    | more =>
      let (last, rest) ← member flags more
      match first, last with
      | some first, some last => if first ≤ last then return rest else none
      | _, _ => none
  | [] => none
  | _ => return rest

/-- Leading dashes stand for themselves. -/
def dropDashes (flags : PatternFlags) : Nat → List Char → List Char
  | 0, cs => cs
  | fuel + 1, cs =>
    match cs with
    | '-' :: rest => dropDashes flags fuel (flags.skip rest)
    | cs => cs

/-- Reads the beginning of a class, up to where a bracket would close it: a complement is one of
characters, and a class is never empty. -/
def start (flags : PatternFlags) (cs : List Char) : Option (List Char) := do
  let afterSign ← match flags.skip cs with
    | '^' :: rest => if flags.unicode then some (flags.skip rest) else none
    | rest => some rest
  match afterSign with
  | '-' :: _ =>
    if !flags.allowsMember '-' then none
    else
      let rest := dropDashes flags afterSign.length afterSign
      if rest.isEmpty then none else some rest
  | ']' :: rest => if flags.allowsMember ']' then some (flags.skip rest) else none
  | rest => some rest

/-- Reads classes up to the end of the outermost one, from inside so many of them. -/
def finish (flags : PatternFlags) : Nat → Nat → List Char → Option (List Char)
  | 0, _, _ => none
  | fuel + 1, depth, cs =>
    match flags.skip cs with
    | [] => none
    | ']' :: rest => if depth ≤ 1 then some rest else finish flags fuel (depth - 1) rest
    | '[' :: rest =>
      match named? rest with
      | some (negated, rest) =>
        if (flags.unicode && flags.foldsCase) || (negated && !flags.unicode) then none
        else finish flags fuel depth rest
      | none => (start flags rest).bind (finish flags fuel (depth + 1))
    | '&' :: '&' :: rest | '-' :: '-' :: rest | '~' :: '~' :: rest => finish flags fuel depth rest
    | cs => (item flags cs).bind (finish flags fuel depth)

/-- Reads a class behind its opening bracket. -/
def read (flags : PatternFlags) (cs : List Char) : Option (List Char) :=
  (start flags cs).bind (finish flags (cs.length + 1) 1)

end PatternClass

/-! ## Groups and repetitions -/

/-- How far an expression has been read. -/
structure PatternReader where
  flags : PatternFlags := {}
  /-- The flags to go back to where the open groups end, the innermost first. -/
  outer : List PatternFlags := []
  /-- The names that groups have. -/
  names : List (List Char) := []
  /-- What was read last can be repeated. -/
  repeatable : Bool := false
  deriving DecidableEq, Repr

namespace PatternReader

/-- Something that can be repeated has been read. -/
def after (r : PatternReader) : PatternReader := { r with repeatable := true }

def enter (r : PatternReader) (flags : PatternFlags) : PatternReader :=
  { r with flags, outer := r.flags :: r.outer, repeatable := false }

/-- What the name of a group is made of, behind its first character. -/
def isNameChar (c : Char) : Bool := isAlphanumeric c || c ∈ ['_', '.', '[', ']']

/-- Reads the name of a group up to its bracket. No two groups have one name. -/
def named (r : PatternReader) (cs : List Char) : Option (PatternReader × List Char) :=
  let name := cs.takeWhile (· ≠ '>')
  match name, cs.dropWhile (· ≠ '>') with
  | first :: others, '>' :: rest =>
    if (isAlphabetic first || first = '_') && others.all isNameChar && !r.names.contains name then
      some ({ r.enter r.flags with names := name :: r.names }, rest)
    else none
  | _, _ => none

/-- Reads what follows the opening bracket of a group, or flags between brackets. There is no looking
ahead or back. -/
def group (r : PatternReader) (cs : List Char) : Option (PatternReader × List Char) :=
  match r.flags.skip cs with
  | '?' :: '=' :: _ | '?' :: '!' :: _ | '?' :: '<' :: '=' :: _ | '?' :: '<' :: '!' :: _ => none
  | '?' :: 'P' :: '<' :: rest | '?' :: '<' :: rest => r.named rest
  | '?' :: rest =>
    match r.flags.read [] rest with
    | some (flags, _, ':' :: rest) => some (r.enter flags, rest)
    | some (flags, true, ')' :: rest) => some ({ r with flags, repeatable := false }, rest)
    | _ => none
  | rest => some (r.enter r.flags, rest)

/-- Whether an expression can go on like this to its end. A repetition by number would need a closing
brace, and that would end the value. -/
def accepts : Nat → PatternReader → List Char → Bool
  | 0, _, _ => false
  | fuel + 1, r, cs =>
    match r.flags.skip cs with
    | [] => r.outer.isEmpty
    | '(' :: rest =>
      match r.group rest with
      | some (r, rest) => r.accepts fuel rest
      | none => false
    | ')' :: rest =>
      match r.outer with
      | flags :: outer => ({ r with flags, outer }.after).accepts fuel rest
      | [] => false
    | '|' :: rest => { r with repeatable := false }.accepts fuel rest
    | '[' :: rest =>
      match PatternClass.read r.flags rest with
      | some rest => r.after.accepts fuel rest
      | none => false
    | '{' :: _ => false
    | '?' :: rest | '*' :: rest | '+' :: rest =>
      r.repeatable &&
        match rest with
        | '?' :: rest => r.accepts fuel rest
        | rest => r.accepts fuel rest
    | '\\' :: rest =>
      match PatternEscape.read r.flags rest with
      | some (escape, rest) => escape.allowed r.flags && r.after.accepts fuel rest
      | none => false
    | '.' :: rest => r.flags.unicode && r.after.accepts fuel rest
    | c :: rest =>
      (c = '^' || c = '$' || r.flags.allowsLiteral c false) && r.after.accepts fuel rest

end PatternReader

/-- Whether text is a regular expression. -/
def isPattern (cs : List Char) : Bool := ({} : PatternReader).accepts (cs.length + 1) cs

/-- Whether text can be asked for as the value of a field. -/
def isValuePattern (cs : List Char) : Bool := isNumber cs || isPattern cs

end TransportConverter
