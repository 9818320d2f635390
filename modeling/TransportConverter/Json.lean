import TransportConverter.Digits
/-!
# JSON values

A JSON text says one value. Numbers are kept as they are written, and the members of an object in
the order in which they come, with their repetitions: what to make of those is up to whoever reads
the value. A string may hold half of a surrogate pair, and then it is not text and is kept as
`none`.
-/
namespace TransportConverter

inductive JsonValue where
  | null
  | bool (value : Bool)
  | number (literal : List Char)
  | string (text : Option String)
  | array (items : List JsonValue)
  | object (members : List (Option String × JsonValue))

namespace JsonValue

/-- The number `n`. -/
def natural (n : Nat) : JsonValue := number (toString n).toList

/-- A piece of text. -/
def text (s : String) : JsonValue := string (some s)

/-- `null` or a value. -/
def optional {α : Type} (write : α → JsonValue) : Option α → JsonValue
  | none => null
  | some a => write a

/-! ## What a value is taken for -/

def bool? : JsonValue → Option Bool
  | bool value => some value
  | _ => none

def text? : JsonValue → Option String
  | string text => text
  | _ => none

/-- A number written with digits alone, if it is below `bound`. -/
def naturalBelow? (bound : Nat) : JsonValue → Option Nat
  | number literal =>
    let value := digitsValue 10 literal
    if literal.all Char.isDigit && value < bound then some value else none
  | _ => none

def optional? {α : Type} (read : JsonValue → Option α) : JsonValue → Option (Option α)
  | null => some none
  | value => (read value).map some

def list? {α : Type} (read : JsonValue → Option α) : JsonValue → Option (List α)
  | array items => items.mapM read
  | _ => none

/-! ## Records

A record is an object with a fixed set of names, or an array of its values in the order of the
names. Names may be missing, and so may values at the end of an array. An object may have other
members too.
-/

/-- The values of one name. -/
def named (members : List (Option String × JsonValue)) (name : String) : List JsonValue :=
  (members.filter fun m => m.1 == some name).map Prod.snd

/-- The value of each name, where there is one; no name may have two. -/
def fields? (names : List String) : JsonValue → Option (List (Option JsonValue))
  | array items =>
    if items.length ≤ names.length then some ((List.range names.length).map (items[·]?)) else none
  | object members =>
    if members.all (·.1.isSome) then
      names.mapM fun name =>
        match named members name with
        | [] => some none
        | [value] => some (some value)
        | _ => none
    else none
  | _ => none

/-- The value of a name, or what holds without it. -/
def field {α : Type} (read : JsonValue → Option α) (default : α) : Option JsonValue → Option α
  | none => some default
  | some value => read value

end JsonValue

end TransportConverter
