import TransportConverter.Json
/-!
# The tokens of a JSON text

Brackets, commas, colons, strings, and the words for everything else. `JsonToken.scan` goes over the
text once, character by character; `JsonToken.Scan` is what it has to remember between two of them.
-/
namespace TransportConverter

inductive JsonToken where
  | openObject
  | closeObject
  | openArray
  | closeArray
  | colon
  | comma
  | string (text : Option String)
  /-- A number, `true`, `false` or `null`. -/
  | word (value : JsonValue)

namespace JsonToken

/-! ## Strings -/

/-- A character of a string, or the unit of sixteen bits that an escape gives by its number. -/
inductive Piece where
  | char (c : Char)
  | unit (code : Nat)
  deriving DecidableEq, Repr

/-- The first half of a surrogate pair. -/
def isHighSurrogate (code : Nat) : Bool := 0xd800 ≤ code && code < 0xdc00

/-- The second half of a surrogate pair. -/
def isLowSurrogate (code : Nat) : Bool := 0xdc00 ≤ code && code < 0xe000

/-- The character of a surrogate pair. -/
def pairChar (high low : Nat) : Char :=
  Char.ofNat (0x10000 + (high - 0xd800) * 0x400 + (low - 0xdc00))

/-- The text of a string, unless there is half a surrogate pair in it. -/
def join : List Piece → Option (List Char)
  | [] => some []
  | .char c :: rest => (join rest).map (c :: ·)
  | .unit high :: rest =>
    if isHighSurrogate high then
      match rest with
      | .unit low :: rest =>
        if isLowSurrogate low then (join rest).map (pairChar high low :: ·) else none
      | _ => none
    else if isLowSurrogate high then none
    else (join rest).map (Char.ofNat high :: ·)

/-- What a character behind a backslash stands for. -/
def unescape? : Char → Option Char
  | '"' => some '"'
  | '\\' => some '\\'
  | '/' => some '/'
  | 'b' => some '\x08'
  | 'f' => some '\x0c'
  | 'n' => some '\n'
  | 'r' => some '\r'
  | 't' => some '\t'
  | _ => none

/-! ## Words -/

/-- At least one digit, and what follows the digits. -/
def digits? (cs : List Char) : Option (List Char) :=
  match cs.span Char.isDigit with
  | ([], _) => none
  | (_, rest) => some rest

/-- The part of a number before the point: no zero at the front of other digits. -/
def integer? : List Char → Option (List Char)
  | '0' :: rest => some rest
  | cs => digits? cs

def fraction? : List Char → Option (List Char)
  | '.' :: rest => digits? rest
  | rest => some rest

def exponent? : List Char → Option (List Char)
  | e :: rest =>
    if e = 'e' ∨ e = 'E' then
      match rest with
      | '+' :: rest | '-' :: rest => digits? rest
      | rest => digits? rest
    else some (e :: rest)
  | [] => some []

/-- Whether the characters are a number. -/
def isNumber (cs : List Char) : Bool :=
  let unsigned := match cs with
    | '-' :: rest => rest
    | cs => cs
  (integer? unsigned |>.bind fraction? |>.bind exponent?) == some []

def word? (cs : List Char) : Option JsonValue :=
  if cs = ['n', 'u', 'l', 'l'] then some .null
  else if cs = ['t', 'r', 'u', 'e'] then some (.bool true)
  else if cs = ['f', 'a', 'l', 's', 'e'] then some (.bool false)
  else if isNumber cs then some (.number cs)
  else none

/-! ## Scanning -/

/-- What the characters before have begun. What they consist of is kept with the last one first. -/
inductive Scan where
  | between
  | inWord (chars : List Char)
  | inString (pieces : List Piece)
  | behindBackslash (pieces : List Piece)
  /-- Behind `count` digits of the number `value`. -/
  | inEscape (pieces : List Piece) (count value : Nat)

/-- A scan: the tokens so far, the last one first, and what has been begun. -/
structure Scanner where
  tokens : List JsonToken := []
  scan : Scan := .between

def isSpace (c : Char) : Bool := c = ' ' || c = '\n' || c = '\t' || c = '\r'

/-- A character that words are made of. -/
def isWordChar (c : Char) : Bool := c.isAlphanum || c = '-' || c = '+' || c = '.'

def bracket? : Char → Option JsonToken
  | '{' => some openObject
  | '}' => some closeObject
  | '[' => some openArray
  | ']' => some closeArray
  | ':' => some colon
  | ',' => some comma
  | _ => none

namespace Scanner

/-- Ends a word, if one has been begun. -/
def endWord (s : Scanner) : Option Scanner :=
  match s.scan with
  | .inWord chars => (word? chars.reverse).map fun value => { tokens := word value :: s.tokens }
  | _ => some s

/-- A character that is in no string and no word. -/
def outside (s : Scanner) (c : Char) : Option Scanner :=
  if isSpace c then some s
  else if c = '"' then some { s with scan := .inString [] }
  else (bracket? c).map fun token => { s with tokens := token :: s.tokens }

def step (s : Scanner) (c : Char) : Option Scanner :=
  match s.scan with
  | .between => if isWordChar c then some { s with scan := .inWord [c] } else s.outside c
  | .inWord chars =>
    if isWordChar c then some { s with scan := .inWord (c :: chars) }
    else s.endWord.bind fun s => s.outside c
  | .inString pieces =>
    if c = '"' then some { tokens := string ((join pieces.reverse).map String.ofList) :: s.tokens }
    else if c = '\\' then some { s with scan := .behindBackslash pieces }
    else if c.toNat < 0x20 then none
    else some { s with scan := .inString (.char c :: pieces) }
  | .behindBackslash pieces =>
    if c = 'u' then some { s with scan := .inEscape pieces 0 0 }
    else (unescape? c).map fun c => { s with scan := .inString (.char c :: pieces) }
  | .inEscape pieces count value =>
    if digitValue c < 16 then
      let value := 16 * value + digitValue c
      if count = 3 then some { s with scan := .inString (.unit value :: pieces) }
      else some { s with scan := .inEscape pieces (count + 1) value }
    else none

/-- All tokens, if nothing is left open. -/
def finish (s : Scanner) : Option (List JsonToken) :=
  s.endWord.bind fun s =>
    match s.scan with
    | .between => some s.tokens.reverse
    | _ => none

end Scanner

def scan (cs : List Char) : Option (List JsonToken) :=
  (cs.foldlM Scanner.step {}).bind Scanner.finish

end JsonToken

end TransportConverter
