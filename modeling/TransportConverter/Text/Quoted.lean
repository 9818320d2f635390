import TransportConverter.Text.Printable
import TransportConverter.Text.Utf8
/-!
# Quoted text

Text in quotes as error messages show it: one can see where it begins and ends, and every character
that would not show is written as an escape. The name of a file need not be text. It is shown as the
text it is made of, with the bytes between as escapes.
-/
namespace TransportConverter

namespace Quoted

/-- The digits of a number in base sixteen. -/
def hexDigits (n : Nat) : List Char := (Nat.toDigits 16 n)

/-- A character by its number. -/
def numbered (c : Char) : List Char := ['\\', 'u', '{'] ++ hexDigits c.toNat ++ ['}']

/-- One character between quotes. -/
def char (c : Char) : List Char :=
  if c = '\x00' then ['\\', '0']
  else if c = '\t' then ['\\', 't']
  else if c = '\r' then ['\\', 'r']
  else if c = '\n' then ['\\', 'n']
  else if c = '"' ∨ c = '\\' then ['\\', c]
  else if isGraphemeExtender c || isUnprintable c then numbered c
  else [c]

def between (inner : List Char) : String := String.ofList ('"' :: inner ++ ['"'])

/-- Text in quotes. -/
def text (s : String) : String := between (s.toList.flatMap char)

/-! ## Names of files -/

/-- A piece of a file's name. -/
def namePiece : Utf8.Piece → List Char
  | .char c => char c
  | .broken bytes => bytes.flatMap fun b =>
    ['\\', 'x', (Nat.digitChar (b.toNat / 16)).toUpper, (Nat.digitChar (b.toNat % 16)).toUpper]

/-- The name of a file in quotes. -/
def name (bytes : Bytes) : String := between ((Utf8.pieces bytes).flatMap namePiece)

end Quoted

end TransportConverter
