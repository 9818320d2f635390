/-!
# Durations

Spans of time in whole nanoseconds, and the text for one: a decimal number of the largest unit that
there is at least one of.
-/
namespace TransportConverter

structure Duration where
  nanoseconds : Nat
  deriving DecidableEq, Repr

namespace Duration

def nanosecondsPerSecond : Nat := 1000000000

def ofSeconds (seconds : Nat) : Duration := ⟨seconds * nanosecondsPerSecond⟩

def ofMilliseconds (milliseconds : Nat) : Duration := ⟨milliseconds * 1000000⟩

/-- The digits behind the point of `numerator / 10 ^ places`, without zeros at the end. -/
def fractionDigits : (places : Nat) → (numerator : Nat) → List Char
  | 0, _ => []
  | places + 1, numerator =>
    if numerator = 0 then []
    else
      let unit := Nat.pow 10 places
      Nat.digitChar (numerator / unit) :: fractionDigits places (numerator % unit)

/-- The number `n / 10 ^ places` in decimal. -/
def decimal (n places : Nat) : String :=
  let digits := fractionDigits places (n % Nat.pow 10 places)
  toString (n / Nat.pow 10 places) ++ (if digits.isEmpty then "" else String.ofList ('.' :: digits))

def text (d : Duration) : String :=
  let n := d.nanoseconds
  if 1000000000 ≤ n then decimal n 9 ++ "s"
  else if 1000000 ≤ n then decimal n 6 ++ "ms"
  else if 1000 ≤ n then decimal n 3 ++ "µs"
  else decimal n 0 ++ "ns"

end Duration

end TransportConverter
