import TransportConverter.Logging.Pattern
import TransportConverter.Text.Utf8
/-!
# Log directives

A directive sets the least severe level that is logged, for the targets whose name begins as it says
or for all of them. It is written as the beginning of the name, a condition in brackets and a level
behind an equals sign, each of which may be left out; a directive that is the name of a level is one
for all targets.

The condition is about the span that something happens in and about the fields that it has. Nothing
this library does happens in a span, and all that is logged has a single field, its message.
-/
namespace TransportConverter

inductive LogLevel where
  | error
  | warn
  | info
  | debug
  | trace
  deriving DecidableEq, Repr

namespace LogLevel

/-- From the most severe on. -/
def rank : LogLevel → Nat
  | error => 1
  | warn => 2
  | info => 3
  | debug => 4
  | trace => 5

def name : LogLevel → String
  | error => "ERROR"
  | warn => "WARN"
  | info => "INFO"
  | debug => "DEBUG"
  | trace => "TRACE"

/-- The rank that everything has at most. -/
def lastRank : Nat := trace.rank

end LogLevel

/-- What is logged. -/
structure LogRecord where
  level : LogLevel
  /-- Which part of the program it comes from. -/
  target : String
  message : String
  deriving DecidableEq, Repr

/-- The only field of what is logged. -/
def LogRecord.fieldName : String := "message"

/-- A field that a directive asks for. -/
structure FieldCondition where
  name : String
  /-- It has to have a certain value. -/
  valued : Bool
  deriving DecidableEq, Repr

structure LogDirective where
  /-- What a target begins with. -/
  target : Option String := none
  /-- It is about what happens within a span. -/
  spanned : Bool := false
  field : Option FieldCondition := none
  /-- The rank of the last level that is logged. -/
  threshold : Nat := LogLevel.lastRank
  deriving DecidableEq, Repr

/-! ## Levels -/

namespace LogLevel

/-- Each name of a level, with its rank. -/
def names : List (String × Nat) :=
  [("off", 0), ("error", 1), ("warn", 2), ("info", 3), ("debug", 4), ("trace", 5)]

/-- The rank that a number writes. -/
def rankOfNumber? (cs : List Char) : Option Nat :=
  let digits := match cs with
    | '+' :: digits => digits
    | digits => digits
  if !digits.isEmpty && digits.all Char.isDigit && digitsValue 10 digits ≤ lastRank then
    some (digitsValue 10 digits)
  else none

/-- The rank of a level, by its name in either case or by its number. -/
def rank? (text : String) : Option Nat :=
  match names.lookup (String.ofList (text.toList.map Char.toLower)) with
  | some rank => some rank
  | none => rankOfNumber? text.toList

/-- The rank behind an equals sign; everything is logged if there is none. -/
def assigned? (text : String) : Option Nat := if text.isEmpty then some lastRank else rank? text

end LogLevel

namespace FieldCondition

/-- A field by its name, or by its name and a value. What follows a second equals sign counts for
nothing. -/
def ofText? (text : String) : Option FieldCondition :=
  let name := text.toList.takeWhile (· ≠ '=')
  match text.toList.dropWhile (· ≠ '=') with
  | _ :: rest =>
    if isValuePattern (rest.takeWhile (· ≠ '=')) then
      some { name := String.ofList name, valued := true }
    else none
  | [] => if name.isEmpty then none else some { name := text, valued := false }

end FieldCondition

/-! ## Reading directives -/

/-- The text that a directive is cut out of. Its parts are found in the text without the blanks around
it, but they are cut out of the whole text by the same distances: behind a blank in front, each part
begins and ends that much too early. A cut through the middle of a character gives nothing. -/
structure DirectiveText where
  text : String

namespace DirectiveText

/-- Where the parts are found. -/
def trimmed (d : DirectiveText) : List Char := trimBlanks d.text.toList

/-- The bytes that characters take. -/
def size (cs : List Char) : Nat := (Utf8.encode (String.ofList cs)).length

/-- So many bytes behind a distance. -/
def cut (d : DirectiveText) (distance count : Nat) : Option String :=
  Utf8.decode? (((Utf8.encode d.text).drop distance).take count)

/-- All bytes behind a distance. -/
def cutRest (d : DirectiveText) (distance : Nat) : Option String :=
  Utf8.decode? ((Utf8.encode d.text).drop distance)

/-- Reads what may follow the brackets, which end at a distance. -/
def afterBrackets (d : DirectiveText) (distance : Nat) (directive : LogDirective) :
    List Char → Option LogDirective
  | [] => some directive
  | '=' :: _ => do
    let threshold ← LogLevel.assigned? (← d.cutRest (distance + 1))
    return { directive with threshold }
  | _ => none

/-- Reads what follows the opening bracket, which ends at a distance: a span, a field between braces
or both. -/
def inBrackets (d : DirectiveText) (distance : Nat) (directive : LogDirective) (cs : List Char) :
    Option LogDirective := do
  let span := cs.takeWhile fun c => c ≠ ']' && c ≠ '{'
  let spanEnd := distance + size span
  discard (d.cut distance (size span))
  match cs.dropWhile fun c => c ≠ ']' && c ≠ '{' with
  | ']' :: rest => d.afterBrackets (spanEnd + 1) { directive with spanned := true } rest
  | '{' :: rest =>
    let inner := rest.takeWhile (· ≠ '}')
    let field ← FieldCondition.ofText? (← d.cut (spanEnd + 1) (size inner))
    let directive := { directive with spanned := !span.isEmpty, field := some field }
    match rest.dropWhile (· ≠ '}') with
    | '}' :: ']' :: rest => d.afterBrackets (spanEnd + 1 + size inner + 2) directive rest
    | _ => none
  | _ => none

/-- What a directive may begin with, unless that is a bracket. -/
def isTargetStart (c : Char) : Bool := isAlphanumeric c || c = '-' || c = ':' || c = '_'

def read (d : DirectiveText) : Option LogDirective :=
  match d.trimmed with
  | [] => none
  | '[' :: rest => d.inBrackets 1 {} rest
  | first :: others => do
    if !isTargetStart first then none
    else
      let cs := first :: others
      let length := size (cs.takeWhile fun c => c ≠ '=' && c ≠ '[')
      match cs.dropWhile fun c => c ≠ '=' && c ≠ '[' with
      | '=' :: _ =>
        let target ← d.cut 0 length
        let threshold ← LogLevel.assigned? (← d.cutRest (length + 1))
        return { target := some target, threshold }
      | '[' :: rest =>
        let target ← d.cut 0 length
        d.inBrackets (length + 1) { target := some target } rest
      | _ =>
        match LogLevel.rank? d.text with
        | some threshold => return { threshold }
        | none => return { target := some d.text }

end DirectiveText

namespace LogDirective

def ofText? (text : String) : Option LogDirective := (DirectiveText.mk text).read

/-- Whether a directive says anything about what is logged for a target. The value of a field is only
known in a span. -/
def applies (d : LogDirective) (target : String) : Bool :=
  !d.spanned && (d.target.all fun beginning => beginning.toList.isPrefixOf target.toList) &&
    d.field.all fun field => !field.valued && field.name = LogRecord.fieldName

/-- How much a directive says about what it applies to: the longer beginning of a target says more,
and then a field. -/
def precision (d : LogDirective) : Nat :=
  2 * ((d.target.map fun beginning => beginning.length + 1).getD 0) + if d.field.isSome then 1 else 0

end LogDirective

end TransportConverter
