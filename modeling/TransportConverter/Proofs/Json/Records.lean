import Mathlib.Data.List.Forall2
import TransportConverter.Proofs.Json.RoundTrip
import TransportConverter.Settings.Document
/-!
# Records and what is left out of them

An object that gives some of the fields of a record is read as just those (`JsonValue.fields?_of_gives`): in
whatever order its members come, and whatever members it has besides. Each kind of field is read as what is
written for it, and as its default where it is left out (`JsonValue.field_map`).
-/
namespace TransportConverter

namespace JsonValue

/-- The members for the fields that are given. -/
def givenMembers (names : List String) (given : List (Option JsonValue)) : List (Option String × JsonValue) :=
  (names.zip given).flatMap fun field => field.2.toList.map (some field.1, ·)

/-- An object that gives these values for the names, in any order, and other members of any other names. -/
inductive Gives (names : List String) (given : List (Option JsonValue)) : JsonValue → Prop
  | object {members : List (Option String × JsonValue)} (others : List (Option String × JsonValue))
      (order : members.Perm (givenMembers names given ++ others))
      (unknown : ∀ m ∈ others, ∃ key, m.1 = some key ∧ key ∉ names) : Gives names given (.object members)

variable {names : List String} {given : List (Option JsonValue)} {name : String}
  {members others : List (Option String × JsonValue)} {v : JsonValue}

/-! ## The values of a name -/

theorem named_append (members others : List (Option String × JsonValue)) (name : String) :
    named (members ++ others) name = named members name ++ named others name := by
  simp [named]

theorem named_eq_nil (absent : ∀ m ∈ members, m.1 ≠ some name) : named members name = [] := by
  simpa [named] using absent

theorem named_perm (order : members.Perm others) (name : String) :
    (named members name).Perm (named others name) :=
  (order.filter _).map _

theorem mem_givenMembers {m : Option String × JsonValue} (mem : m ∈ givenMembers names given) :
    ∃ name ∈ names, m.1 = some name := by
  obtain ⟨field, inside, mem⟩ := List.mem_flatMap.mp mem
  obtain ⟨value, -, rfl⟩ := List.mem_map.mp mem
  exact ⟨field.1, (List.of_mem_zip inside).1, rfl⟩

theorem named_field (value : Option JsonValue) (name : String) :
    named (value.toList.map (some name, ·)) name = value.toList := by
  cases value <;> simp [named]

theorem named_givenMembers (once : names.Nodup) {field : String × Option JsonValue}
    (mem : field ∈ names.zip given) : named (givenMembers names given) field.1 = field.2.toList := by
  induction names generalizing given with
  | nil => cases mem
  | cons name names ih =>
    cases given with
    | nil => cases mem
    | cons value given =>
      obtain ⟨fresh, once⟩ := List.nodup_cons.mp once
      have shape : givenMembers (name :: names) (value :: given) =
        value.toList.map (some name, ·) ++ givenMembers names given := rfl
      rw [shape, named_append]
      rcases List.mem_cons.mp mem with rfl | mem
      · have elsewhere : named (givenMembers names given) name = [] := by
          refine named_eq_nil fun m inside same => ?_
          obtain ⟨other, known, eq⟩ := mem_givenMembers inside
          rw [same, Option.some.injEq] at eq
          exact fresh (eq ▸ known)
        rw [named_field, elsewhere, List.append_nil]
      · have elsewhere : named (value.toList.map (some name, ·)) field.1 = [] := by
          refine named_eq_nil fun m inside same => ?_
          obtain ⟨_, -, rfl⟩ := List.mem_map.mp inside
          rw [Option.some.injEq] at same
          exact fresh (same ▸ (List.of_mem_zip mem).1)
        rw [elsewhere, List.nil_append, ih once mem]

/-! ## The fields of an object -/

theorem mapM_of_forall₂ {α β : Type} {f : α → Option β} {as : List α} {bs : List β}
    (each : List.Forall₂ (fun a b => f a = some b) as bs) : as.mapM f = some bs := by
  induction each with
  | nil => rfl
  | cons first _ ih =>
    rw [List.mapM_cons, first, ih]
    rfl

/-- **An object that gives some fields of a record is read as just those.** -/
theorem fields?_of_gives (once : names.Nodup) (all : names.length = given.length)
    (gives : Gives names given v) : v.fields? names = some given := by
  obtain @⟨members, others, order, unknown⟩ := gives
  have texts : members.all (·.1.isSome) = true := by
    refine List.all_eq_true.mpr fun m mem => ?_
    rcases List.mem_append.mp (order.mem_iff.mp mem) with mem | mem
    · obtain ⟨name, -, same⟩ := mem_givenMembers mem
      rw [same, Option.isSome_some]
    · obtain ⟨key, same, -⟩ := unknown m mem
      rw [same, Option.isSome_some]
  rw [fields?, if_pos texts]
  refine mapM_of_forall₂ (List.forall₂_iff_zip.mpr ⟨all, fun {name value} mem => ?_⟩)
  have values : (named members name).Perm value.toList := by
    have elsewhere : named others name = [] := by
      refine named_eq_nil fun m inside same => ?_
      obtain ⟨key, eq, foreign⟩ := unknown m inside
      rw [same, Option.some.injEq] at eq
      exact foreign (eq ▸ (List.of_mem_zip mem).1)
    have inside := named_perm order name
    rwa [named_append, named_givenMembers once mem, elsewhere, List.append_nil] at inside
  cases value with
  | none => rw [List.perm_nil.mp values]
  | some value => rw [List.perm_singleton.mp values]

theorem givenMembers_some (names : List String) (values : List JsonValue) :
    givenMembers names (values.map some) = (names.map some).zip values := by
  induction names generalizing values with
  | nil => rfl
  | cons name names ih =>
    cases values with
    | nil => rfl
    | cons value values => exact congrArg ((some name, value) :: ·) (ih values)

/-- A record as it is written gives all its fields. -/
theorem gives_record {values : List JsonValue} (all : given = values.map some) (names : List String) :
    Gives names given (record names values) := by
  refine .object [] ?_ fun m mem => absurd mem List.not_mem_nil
  rw [all, givenMembers_some, List.append_nil]

theorem Writable.text (s : String) : Writable (.text s) := .string (some s)

theorem Writable.texts (texts : List String) : Writable (.array (texts.map .text)) := by
  refine .array fun v mem => ?_
  obtain ⟨s, -, rfl⟩ := List.mem_map.mp mem
  exact .text s

theorem Writable.optional (s : Option String) : Writable (JsonValue.optional .text s) := by
  cases s with
  | none => exact .null
  | some s => exact .text s

theorem Writable.record {values : List JsonValue} (each : ∀ v ∈ values, Writable v) (names : List String) :
    Writable (record names values) :=
  .object fun m mem => each m.2 (List.of_mem_zip mem).2

/-! ## The values of fields -/

section Field
variable {α β : Type} {read : JsonValue → Option α}

/-- A field that may be left out is read as what is given, or as the default. -/
theorem field_map {write : α → JsonValue} (reads : ∀ a, read (write a) = some a) (standard : α)
    (a : Option α) : field read standard (a.map write) = some (a.getD standard) := by
  cases a with
  | none => rfl
  | some a => exact reads a

/-- The same of a field that can be given in several ways. -/
theorem field_rel {gives : β → JsonValue → Prop} {value : β → α} {b : Option β} {v : Option JsonValue}
    (given : Option.Rel gives b v) (reads : ∀ b v, gives b v → read v = some (value b)) (standard : α) :
    field read standard v = some ((b.map value).getD standard) := by
  cases given with
  | none => rfl
  | some given => exact reads _ _ given

end Field

theorem text?_text (s : String) : text? (text s) = some s := rfl

theorem bool?_bool (b : Bool) : bool? (bool b) = some b := rfl

theorem optional?_text (s : Option String) : optional? text? (optional text s) = some s := by
  cases s <;> rfl

theorem list?_texts (texts : List String) : list? text? (array (texts.map text)) = some texts := by
  refine mapM_of_forall₂ ?_
  rw [List.forall₂_map_left_iff, List.forall₂_same]
  exact fun s _ => text?_text s

theorem word16?_natural (n : UInt16) : word16? (natural n.toNat) = some n := by
  rw [word16?, naturalBelow?_natural n.toNat_lt, Option.map_some, UInt16.ofNat_toNat]

theorem word32?_natural (n : UInt32) : word32? (natural n.toNat) = some n := by
  rw [word32?, naturalBelow?_natural n.toNat_lt, Option.map_some, UInt32.ofNat_toNat]

theorem word64?_natural (n : UInt64) : word64? (natural n.toNat) = some n := by
  rw [word64?, naturalBelow?_natural n.toNat_lt, Option.map_some, UInt64.ofNat_toNat]

end JsonValue

end TransportConverter
