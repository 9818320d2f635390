import TransportConverter.Bytes
/-!
# Text as bytes

Text is kept in files as UTF-8. Writing text and reading it back gives the text again
(`Utf8.decode?_encode`). Bytes that are not UTF-8 as a whole still hold text here and there, and
`Utf8.pieces` finds it.
-/
namespace TransportConverter

namespace Utf8

def encode (s : String) : Bytes := s.toUTF8.data.toList

/-- The text that bytes stand for, if they are UTF-8. -/
def decode? (bytes : Bytes) : Option String := String.fromUTF8? ⟨bytes.toArray⟩

@[simp] theorem decode?_encode (s : String) : decode? (encode s) = some s := by
  simp only [decode?, encode, String.toUTF8, Array.toArray_toList, String.fromUTF8?]
  exact dif_pos s.isValidUTF8

/-- A character, or bytes that make none: the beginning of one that breaks off, or a byte that begins
none. -/
inductive Piece where
  | char (c : Char)
  | broken (bytes : Bytes)
  deriving DecidableEq, Repr

/-- Whether a byte goes on with a character. -/
def isContinuation (byte : UInt8) : Bool := 0x80 ≤ byte && byte ≤ 0xbf

/-- Whether a character of more than one byte can begin with two bytes. -/
def isBeginning (first second : UInt8) : Bool :=
  if first = 0xe0 then 0xa0 ≤ second && second ≤ 0xbf
  else if first = 0xed then 0x80 ≤ second && second ≤ 0x9f
  else if first = 0xf0 then 0x90 ≤ second && second ≤ 0xbf
  else if first = 0xf4 then 0x80 ≤ second && second ≤ 0x8f
  else 0xc2 ≤ first && first ≤ 0xf4 && isContinuation second

/-- How many bytes from `index` on begin a character that then breaks off, and 1 if none do. -/
def brokenLength (bytes : ByteArray) (index : Nat) : Nat :=
  match bytes[index]?, bytes[index + 1]?, bytes[index + 2]? with
  | some first, some second, some third =>
    if !isBeginning first second then 1
    else if 0xf0 ≤ first && isContinuation third then 3
    else 2
  | some first, some second, none => if isBeginning first second then 2 else 1
  | _, _, _ => 1

theorem brokenLength_pos (bytes : ByteArray) (index : Nat) : 0 < brokenLength bytes index := by
  unfold brokenLength
  split
  · split
    · decide
    · split <;> decide
  · split <;> decide
  · decide

/-- What stands in `bytes` from `index` on. -/
def piecesFrom (bytes : ByteArray) (index : Nat) : List Piece :=
  if index < bytes.size then
    match bytes.utf8DecodeChar? index with
    | some c => .char c :: piecesFrom bytes (index + c.utf8Size)
    | none =>
      let length := brokenLength bytes index
      .broken (bytes.extract index (index + length)).data.toList :: piecesFrom bytes (index + length)
  else []
termination_by bytes.size - index
decreasing_by
  · have := c.utf8Size_pos
    omega
  · have := brokenLength_pos bytes index
    omega

def pieces (bytes : Bytes) : List Piece := piecesFrom ⟨bytes.toArray⟩ 0

end Utf8

end TransportConverter
