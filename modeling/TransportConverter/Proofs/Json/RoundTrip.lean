import Mathlib.Data.List.TakeDrop
import Mathlib.Data.List.TakeWhile
import TransportConverter.Json.Reader
import TransportConverter.Proofs.Json.Scanning
/-!
# Reading back what is printed

A printed value is read back as it was (`JsonValue.ofText?_pretty`), whatever its strings hold and however
deep it goes. The numbers that are written here are natural ones, and those are taken for themselves
(`JsonValue.naturalBelow?_natural`).
-/
namespace TransportConverter

namespace JsonValue

open JsonToken (closeArray closeObject colon comma ofItems_eq_map ofMembers_eq_map ofValue openArray openObject
  separated)

/-- Where a value may begin. -/
def MayBegin (expecting : Expecting) : Prop := expecting = .value ∨ expecting = .firstItem

/-- The tokens are taken for the value, whatever is open around it. -/
def Reads (tokens : List JsonToken) (v : JsonValue) : Prop :=
  ∀ containers expecting, MayBegin expecting →
    tokens.foldlM Reader.step ⟨containers, expecting⟩ = some ⟨containers, .behind v⟩

variable {r r' : Reader} {tokens : List JsonToken}

/-! ## Items and members -/

/-- An array goes on behind an item of it. -/
theorem foldlM_items (containers : List Container) {items : List JsonValue}
    (each : ∀ item ∈ items, Reads (ofValue item) item) (before : List JsonValue) (last : JsonValue) :
    (items.flatMap (comma :: ofValue ·) ++ [closeArray]).foldlM Reader.step
        ⟨.array before :: containers, .behind last⟩ =
      some ⟨containers, .behind (.array ((last :: before).reverse ++ items))⟩ := by
  induction items generalizing before last with
  | nil => simp [Reader.step, Reader.follow, Reader.close]
  | cons item items ih =>
    have reads := each item (List.mem_cons_self ..) (.array (last :: before) :: containers) _ (.inl rfl)
    have others := ih (fun next mem => each next (List.mem_cons_of_mem item mem)) (last :: before) item
    rw [List.flatMap_cons, List.cons_append, List.cons_append, List.append_assoc, foldlM_step rfl,
      foldlM_steps reads, others]
    simp

/-- The member behind a name that is expected. -/
theorem foldlM_member (r : Reader) {before : List (Option String × JsonValue)} (key : Option String)
    {v : JsonValue} (names : r.step (.string key) = some (r.named before key)) (reads : Reads tokens v) :
    (.string key :: colon :: tokens).foldlM Reader.step r =
      some ⟨.object before key :: r.containers, .behind v⟩ := by
  have colon : (r.named before key).step colon = some ⟨.object before key :: r.containers, .value⟩ := rfl
  rw [foldlM_step names, foldlM_step colon, reads _ _ (.inl rfl)]

/-- An object goes on behind a member of it. -/
theorem foldlM_members (containers : List Container) {members : List (Option String × JsonValue)}
    (each : ∀ m ∈ members, Reads (ofValue m.2) m.2) (before : List (Option String × JsonValue))
    (key : Option String) (last : JsonValue) :
    (members.flatMap (fun m => comma :: .string m.1 :: colon :: ofValue m.2) ++ [closeObject]).foldlM
        Reader.step ⟨.object before key :: containers, .behind last⟩ =
      some ⟨containers, .behind (.object (((key, last) :: before).reverse ++ members))⟩ := by
  induction members generalizing before key last with
  | nil => simp [Reader.step, Reader.follow, Reader.close]
  | cons member members ih =>
    have first := foldlM_member ⟨containers, .key ((key, last) :: before)⟩ member.1 rfl
      (each member (List.mem_cons_self ..))
    have others := ih (fun next mem => each next (List.mem_cons_of_mem member mem)) ((key, last) :: before)
      member.1 member.2
    rw [List.flatMap_cons, List.append_assoc, List.cons_append, foldlM_step rfl, foldlM_steps first, others]
    simp

/-! ## A whole value -/

theorem foldlM_begin {token : JsonToken} {containers : List Container} {expecting : Expecting}
    (may : MayBegin expecting) (begins : Reader.begin ⟨containers, expecting⟩ token = some r)
    (rest : List JsonToken) :
    (token :: rest).foldlM Reader.step ⟨containers, expecting⟩ = rest.foldlM Reader.step r := by
  refine foldlM_step ?_ rest
  rcases may with rfl | rfl
  · exact begins
  · cases token with
    | closeArray => cases begins
    | _ => exact begins

/-- The tokens of a value are taken for it. -/
theorem reads_ofValue {v : JsonValue} (writable : Writable v) : Reads (ofValue v) v := by
  induction writable with
  | @array items each ih =>
    intro containers expecting may
    rw [ofValue, ofItems_eq_map, List.cons_append, foldlM_begin may rfl]
    cases items with
    | nil => rfl
    | cons item items =>
      have reads := ih item (List.mem_cons_self ..) (.array [] :: containers) .firstItem (.inr rfl)
      have others := foldlM_items containers
        (fun next mem => ih next (List.mem_cons_of_mem item mem)) [] item
      rw [List.map_cons, separated, List.append_assoc, foldlM_steps reads, List.flatMap_map, others]
      rfl
  | @object members each ih =>
    intro containers expecting may
    rw [ofValue, ofMembers_eq_map, List.cons_append, foldlM_begin may rfl]
    cases members with
    | nil => rfl
    | cons member members =>
      have first := foldlM_member ⟨containers, .firstKey⟩ member.1 rfl
        (ih member (List.mem_cons_self ..))
      have others := foldlM_members containers
        (fun next mem => ih next (List.mem_cons_of_mem member mem)) [] member.1 member.2
      rw [List.map_cons, separated, List.append_assoc, foldlM_steps first, List.flatMap_map, others]
      rfl
  | _ =>
    intro containers expecting may
    exact foldlM_begin may rfl []

/-- **A printed value is read back as it was.** -/
theorem ofText?_pretty {v : JsonValue} (writable : Writable v) : ofText? v.pretty.toList = some v := by
  have taken := reads_ofValue writable [] .value (.inl rfl)
  rw [ofText?, pretty, String.toList_ofList, JsonToken.scan_layout writable, Option.bind_some, ofTokens?,
    taken]
  rfl

/-! ## Natural numbers -/

section Natural
variable {n : Nat} {c : Char} {cs : List Char}

theorem natural_eq (n : Nat) : natural n = number (Nat.toDigits 10 n) := by
  simp [natural]

theorem isDigit_of_mem_toDigits (mem : c ∈ Nat.toDigits 10 n) : c.isDigit = true :=
  Nat.isDigit_of_mem_toDigits (by decide) (by decide) mem

theorem digits?_of_isDigit (digits : ∀ d ∈ c :: cs, d.isDigit = true) :
    JsonToken.digits? (c :: cs) = some [] := by
  have whole : (c :: cs).span Char.isDigit = (c :: cs, []) := by
    rw [List.span_eq_takeWhile_dropWhile, List.takeWhile_eq_self_iff.mpr digits,
      List.dropWhile_eq_nil_iff.mpr digits]
  rw [JsonToken.digits?, whole]

theorem isNumber_toDigits (n : Nat) : JsonToken.isNumber (Nat.toDigits 10 n) = true := by
  by_cases zero : n = 0
  · subst zero
    decide
  · have front : (Nat.toDigits 10 n).head? ≠ some '0' := head?_toDigits (by decide) (by decide) zero
    obtain ⟨c, cs, some⟩ := List.exists_cons_of_ne_nil (Nat.toDigits_ne_nil (n := n) (b := 10))
    have digits : ∀ d ∈ c :: cs, d.isDigit = true := fun d mem => isDigit_of_mem_toDigits (some ▸ mem)
    have unsigned : c ≠ '-' := by
      rintro rfl
      exact absurd (digits _ (List.mem_cons_self ..)) (by decide)
    have nonzero : c ≠ '0' := by simpa [some] using front
    rw [some]
    unfold JsonToken.isNumber
    simp [JsonToken.integer?, unsigned, nonzero, digits?_of_isDigit digits,
      JsonToken.fraction?, JsonToken.exponent?]

theorem word?_toDigits (n : Nat) :
    JsonToken.word? (Nat.toDigits 10 n) = some (number (Nat.toDigits 10 n)) := by
  have other (c : Char) (cs : List Char) (letter : c.isDigit = false) : Nat.toDigits 10 n ≠ c :: cs := by
    intro same
    have digit := isDigit_of_mem_toDigits (c := c) (same ▸ List.mem_cons_self ..)
    rw [letter] at digit
    cases digit
  rw [JsonToken.word?, if_neg (other _ _ rfl), if_neg (other _ _ rfl), if_neg (other _ _ rfl),
    if_pos (isNumber_toDigits n)]

theorem Writable.natural (n : Nat) : Writable (natural n) := by
  rw [natural_eq]
  refine .number (word?_toDigits n) fun c mem => ?_
  simp [JsonToken.isWordChar, Char.isAlphanum, isDigit_of_mem_toDigits mem]

theorem naturalBelow?_natural {bound : Nat} (below : n < bound) :
    naturalBelow? bound (natural n) = some n := by
  have digits : (Nat.toDigits 10 n).all Char.isDigit = true :=
    List.all_eq_true.mpr fun c mem => isDigit_of_mem_toDigits mem
  rw [natural_eq, naturalBelow?, digitsValue_toDigits (by decide) (by decide), digits]
  simp [below]

end Natural

end JsonValue

end TransportConverter
