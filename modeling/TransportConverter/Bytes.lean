/-!
# Bytes and sixteen-bit words

Everything that crosses a socket is a list of bytes. Ports and lengths are sixteen-bit words, sent
most significant byte first: `Word.toBytes` writes one, `Word.ofBytes` reads one back, and the two
are inverse (`Word.ofBytes_high_low`, `Word.high_ofBytes`, `Word.low_ofBytes`).
-/
namespace TransportConverter

abbrev Bytes := List UInt8

namespace Word

/-- The byte sent first. -/
def high (w : UInt16) : UInt8 := UInt8.ofNat (w.toNat / 256)

/-- The byte sent second. -/
def low (w : UInt16) : UInt8 := UInt8.ofNat (w.toNat % 256)

/-- The word whose bytes are `hi` and then `lo`. -/
def ofBytes (hi lo : UInt8) : UInt16 := UInt16.ofNat (hi.toNat * 256 + lo.toNat)

def toBytes (w : UInt16) : Bytes := [high w, low w]

@[simp] theorem length_toBytes (w : UInt16) : (toBytes w).length = 2 := rfl

@[simp] theorem toNat_ofBytes (hi lo : UInt8) :
    (ofBytes hi lo).toNat = hi.toNat * 256 + lo.toNat := by
  have h := hi.toNat_lt
  have l := lo.toNat_lt
  simp only [ofBytes, UInt16.toNat_ofNat']
  omega

@[simp] theorem ofBytes_high_low (w : UInt16) : ofBytes (high w) (low w) = w := by
  apply UInt16.toNat_inj.1
  have h := w.toNat_lt
  simp only [toNat_ofBytes, high, low, UInt8.toNat_ofNat']
  omega

@[simp] theorem high_ofBytes (hi lo : UInt8) : high (ofBytes hi lo) = hi := by
  apply UInt8.toNat_inj.1
  have h := hi.toNat_lt
  have l := lo.toNat_lt
  simp only [high, toNat_ofBytes, UInt8.toNat_ofNat']
  omega

@[simp] theorem low_ofBytes (hi lo : UInt8) : low (ofBytes hi lo) = lo := by
  apply UInt8.toNat_inj.1
  have h := hi.toNat_lt
  have l := lo.toNat_lt
  simp only [low, toNat_ofBytes, UInt8.toNat_ofNat']
  omega

@[simp] theorem toBytes_ofBytes (hi lo : UInt8) : toBytes (ofBytes hi lo) = [hi, lo] := by
  rw [toBytes, high_ofBytes, low_ofBytes]

/-- The words of a run of bytes; an odd byte at the end is dropped. -/
def pairs : Bytes → List UInt16
  | hi :: lo :: rest => ofBytes hi lo :: pairs rest
  | _ => []

@[simp] theorem pairs_flatMap_toBytes (ws : List UInt16) : pairs (ws.flatMap toBytes) = ws := by
  induction ws with
  | nil => rfl
  | cons w ws ih => simp [toBytes, pairs, ih]

@[simp] theorem length_flatMap_toBytes (ws : List UInt16) :
    (ws.flatMap toBytes).length = 2 * ws.length := by
  induction ws with
  | nil => rfl
  | cons w ws ih =>
    simp only [List.flatMap_cons, List.length_append, length_toBytes, ih, List.length_cons]
    omega

end Word

end TransportConverter
