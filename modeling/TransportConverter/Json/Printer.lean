import TransportConverter.Json
/-!
# Writing JSON

`JsonValue.pretty` writes a value over several lines: each item of an array and each member of an
object on a line of its own, two spaces further in than the brackets around them.
-/
namespace TransportConverter

namespace JsonValue

/-! ## Strings -/

/-- The digits of a control character's number. -/
def controlDigits (n : Nat) : List Char :=
  ['0', '0', Nat.digitChar (n / 16), Nat.digitChar (n % 16)]

/-- A character of a string. -/
def escape (c : Char) : List Char :=
  if c = '"' then ['\\', '"']
  else if c = '\\' then ['\\', '\\']
  else if c = '\x08' then ['\\', 'b']
  else if c = '\x0c' then ['\\', 'f']
  else if c = '\n' then ['\\', 'n']
  else if c = '\r' then ['\\', 'r']
  else if c = '\t' then ['\\', 't']
  else if c.toNat < 0x20 then '\\' :: 'u' :: controlDigits c.toNat
  else [c]

/-- Half of a surrogate pair, for a string that is not text. -/
def brokenText : List Char := ['\\', 'u', 'd', '8', '0', '0']

def quoted (text : Option String) : List Char :=
  let inner := match text with
    | some s => s.toList.flatMap escape
    | none => brokenText
  '"' :: inner ++ ['"']

/-! ## Layout -/

/-- The start of a line `depth` levels in. -/
def lineStart (depth : Nat) : List Char := '\n' :: List.replicate (2 * depth) ' '

/-- Lines between brackets, with commas between them. -/
def block (opening closing : Char) (depth : Nat) : List (List Char) → List Char
  | [] => [opening, closing]
  | lines =>
    opening :: [','].intercalate (lines.map (lineStart (depth + 1) ++ ·)) ++ lineStart depth ++
      [closing]

mutual

/-- Writes a value that stands `depth` levels in. -/
def layout (depth : Nat) : JsonValue → List Char
  | null => ['n', 'u', 'l', 'l']
  | bool true => ['t', 'r', 'u', 'e']
  | bool false => ['f', 'a', 'l', 's', 'e']
  | number literal => literal
  | string text => quoted text
  | array items => block '[' ']' depth (layoutItems (depth + 1) items)
  | object members => block '{' '}' depth (layoutMembers (depth + 1) members)

def layoutItems (depth : Nat) : List JsonValue → List (List Char)
  | [] => []
  | item :: items => layout depth item :: layoutItems depth items

def layoutMembers (depth : Nat) : List (Option String × JsonValue) → List (List Char)
  | [] => []
  | (key, value) :: members =>
    (quoted key ++ [':', ' '] ++ layout depth value) :: layoutMembers depth members

end

def pretty (value : JsonValue) : String := String.ofList (layout 0 value)

end JsonValue

end TransportConverter
