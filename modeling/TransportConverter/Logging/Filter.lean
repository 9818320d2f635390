import TransportConverter.Logging.Directive
/-!
# Log filters

A filter is a list of directives with commas between them. The one that says most about a target
decides what is logged for it (`LogFilter.threshold`).
-/
namespace TransportConverter

structure LogFilter where
  directives : List LogDirective
  deriving DecidableEq, Repr

namespace LogFilter

/-- The filter of a text. A text without directives asks for errors. -/
def ofText? (text : String) : Option LogFilter :=
  let parts := (text.toList.splitOn ',').filter fun part => !part.isEmpty
  if parts.isEmpty then some ⟨[{ threshold := LogLevel.error.rank }]⟩
  else (parts.mapM fun part => LogDirective.ofText? (String.ofList part)).map LogFilter.mk

/-- The more precise of two directives; of two alike, the later one. -/
def sharper (best : Option LogDirective) (d : LogDirective) : Option LogDirective :=
  match best with
  | some b => if d.precision < b.precision then some b else some d
  | none => some d

/-- The rank of the last level that is logged for a target. -/
def threshold (f : LogFilter) (target : String) : Nat :=
  let applying := f.directives.filter (·.applies target)
  ((applying.foldl sharper none).map (·.threshold)).getD 0

def enables (f : LogFilter) (r : LogRecord) : Bool := r.level.rank ≤ f.threshold r.target

end LogFilter

end TransportConverter
