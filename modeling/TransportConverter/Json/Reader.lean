import TransportConverter.Json.Token
/-!
# Reading JSON

`JsonValue.ofText?` reads a JSON text, which is one value with nothing but space around it. The
tokens are taken one after the other; a `Reader` holds the arrays and objects that are open and
what may come next, so that values can be nested to any depth.
-/
namespace TransportConverter

namespace JsonValue

/-- An array or object that is still open, with what it has so far, the last one first. -/
inductive Container where
  | array (items : List JsonValue)
  /-- The value of `key` is to come. -/
  | object (members : List (Option String × JsonValue)) (key : Option String)

/-- What may come next. -/
inductive Expecting where
  | value
  /-- A value or the end of the array. -/
  | firstItem
  /-- The name of a member or the end of the object. -/
  | firstKey
  | key (members : List (Option String × JsonValue))
  | colon
  /-- More of what `value` is in. -/
  | behind (value : JsonValue)

/-- A reader. The container opened last is the first. -/
structure Reader where
  containers : List Container := []
  expecting : Expecting := .value

namespace Reader

/-- Turns to the name of a member. -/
def named (r : Reader) (members : List (Option String × JsonValue)) (key : Option String) :
    Reader :=
  { containers := .object members key :: r.containers, expecting := .colon }

/-- A container has ended: it is a value of the one around it. -/
def close (containers : List Container) (value : JsonValue) : Reader :=
  { containers, expecting := .behind value }

/-- Takes the beginning of a value, or all of it. -/
def begin (r : Reader) : JsonToken → Option Reader
  | .word value => some { r with expecting := .behind value }
  | .string text => some { r with expecting := .behind (.string text) }
  | .openArray => some { containers := .array [] :: r.containers, expecting := .firstItem }
  | .openObject => some { r with expecting := .firstKey }
  | _ => none

/-- Takes what stands behind a value in a container. -/
def follow (value : JsonValue) : List Container → JsonToken → Option Reader
  | .array items :: containers, .comma =>
    some { containers := .array (value :: items) :: containers, expecting := .value }
  | .array items :: containers, .closeArray =>
    some (close containers (.array (value :: items).reverse))
  | .object members key :: containers, .comma =>
    some { containers, expecting := .key ((key, value) :: members) }
  | .object members key :: containers, .closeObject =>
    some (close containers (.object ((key, value) :: members).reverse))
  | _, _ => none

def step (r : Reader) (token : JsonToken) : Option Reader :=
  match r.expecting, token with
  | .value, token => r.begin token
  | .firstItem, .closeArray => some (close r.containers.tail (.array []))
  | .firstItem, token => r.begin token
  | .firstKey, .closeObject => some (close r.containers (.object []))
  | .firstKey, .string key => some (r.named [] key)
  | .key members, .string key => some (r.named members key)
  | .colon, .colon => some { r with expecting := .value }
  | .behind value, token => follow value r.containers token
  | _, _ => none

/-- The value, if it is complete. -/
def finish (r : Reader) : Option JsonValue :=
  match r.containers, r.expecting with
  | [], .behind value => some value
  | _, _ => none

end Reader

/-- The value of a list of tokens. -/
def ofTokens? (tokens : List JsonToken) : Option JsonValue :=
  (tokens.foldlM Reader.step {}).bind Reader.finish

/-- The value of a text. -/
def ofText? (cs : List Char) : Option JsonValue := (JsonToken.scan cs).bind ofTokens?

end JsonValue

end TransportConverter
