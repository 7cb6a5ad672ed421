import LightSync.Proofs.Records

/-!
# What is given for the fields of a record

A record may be an object, in which a field is given as the member with its name, or an array, in
which it is given as the item at its place. Either way a field with a default has what was given for
it, and its default if nothing was, so reading such a record is one function of what is given for
each field. What may be given for a field is a relation between JSON values and the values that they
stand for.

## Main definitions

- `Json.part?`: what a value gives for a field
- `Json.IsRecord`: objects, and arrays with at most one item for each field
- `Json.FieldIs`: a field has what was given for it, or its default
- `Json.IsText`, `Json.IsFlag`, `Json.IsNat64` and so on: what JSON values stand for
- `Json.Fits`: everything that a value gives for a field is of the field's kind

## Main results

- `Json.slots?_cases`: a record has a place for each of its fields, with what is given for it, and
  nothing else has
-/

namespace LightSync.Json

/-! ## What is given for a field -/

/-- What a value gives for a field of a record: the member with its name, or the item at its
place. -/
def part? (name : String) (place : Nat) : Json → Option Json
  | .obj members => lookup name members
  | .arr items => items[place]?
  | _ => none

/-- An object, or an array that is no longer than a record of so many fields. -/
def IsRecord (fields : Nat) : Json → Prop
  | .obj _ => True
  | .arr items => items.length ≤ fields
  | _ => False

/-- A value that, if it is an object, has no key twice. -/
def KeysOnce (j : Json) : Prop := ∀ members, j = .obj members → (keys members).Nodup

/-- What was given for the place of a field. -/
def Slot.given? : Slot → Option Json
  | .given value => some value
  | .absent | .short => none

theorem slot?_of_once {members : List (String × Json)} (once : (keys members).Nodup)
    (name : String) : slot? members name = some (.ofOption (lookup name members)) := by
  cases found : lookup name members with
  | none =>
    have absent : members.filter (·.1 = name) = [] := by
      refine List.filter_eq_nil_iff.2 fun m mem here => ?_
      obtain ⟨value, there⟩ := lookup_isSome_of_mem
        (List.mem_map.2 ⟨m, mem, of_decide_eq_true here⟩ : name ∈ keys members)
      exact nomatch found.symm.trans there
    rw [slot?, absent]
    rfl
  | some value =>
    rw [slot?, filter_of_mem once (mem_of_lookup found)]
    rfl

/-- A record has a place for each of its fields. -/
theorem exists_slots (names : List String) {j : Json} (once : j.KeysOnce)
    (record : j.IsRecord names.length) :
    ∃ slots, j.slots? names = some slots ∧
      slots.map Slot.given? = names.zipIdx.map fun (name, place) => j.part? name place := by
  cases j with
  | obj members =>
    refine ⟨names.map fun name => .ofOption (lookup name members), ?_, ?_⟩
    · refine mapM_eq_some_iff.2 ?_
      rw [List.map_map]
      exact List.map_congr_left fun name _ => slot?_of_once (once members rfl) name
    · apply List.ext_getElem?
      intro i
      simp only [List.getElem?_map, List.getElem?_zipIdx, Option.map_map]
      cases names[i]? with
      | none => rfl
      | some name =>
        simp only [Option.map_some, Function.comp_apply, part?]
        cases lookup name members <;> rfl
  | arr items =>
    refine ⟨_, if_pos record, ?_⟩
    have record : items.length ≤ names.length := record
    -- The items stand at the first places, and the array is too short for the others.
    apply List.ext_getElem (by simp [record])
    intro i small _
    rw [List.length_map, List.length_append, List.length_map, List.length_replicate] at small
    simp only [List.getElem_map, List.getElem_zipIdx, part?, Nat.zero_add]
    by_cases here : i < items.length
    · rw [List.getElem_append_left (by simpa using here)]
      simp [here, Slot.given?]
    · rw [List.getElem_append_right (by simpa using here)]
      simp [here, Slot.given?]
  | _ => cases record

theorem slots?_eq_none (names : List String) {j : Json} (h : ¬ j.IsRecord names.length) :
    j.slots? names = none := by
  cases j with
  | obj members => exact absurd trivial h
  | arr items => exact if_neg h
  | _ => rfl

/-- A value is a record and has a place for each field, or nothing can be read from it. -/
theorem slots?_cases (names : List String) {j : Json} (once : j.KeysOnce) :
    (∃ slots, j.slots? names = some slots ∧ j.IsRecord names.length ∧
      slots.map Slot.given? = names.zipIdx.map fun (name, place) => j.part? name place) ∨
    (j.slots? names = none ∧ ¬ j.IsRecord names.length) := by
  by_cases record : j.IsRecord names.length
  · obtain ⟨slots, found, given⟩ := exists_slots names once record
    exact .inl ⟨slots, found, record, given⟩
  · exact .inr ⟨slots?_eq_none names record, record⟩

/-! ## Fields with defaults -/

section FieldIs

variable {α : Type} {decode : Json → Option α} {means : Json → α → Prop} {default a : α}
  {given : Option Json} {slot : Slot}

/-- A field has what was given for it, and its default if nothing was. -/
def FieldIs (means : Json → α → Prop) (default : α) : Option Json → α → Prop
  | some j, a => means j a
  | none, a => a = default

/-- Decodes what was given for a field. -/
def orDefault (default : α) (decode : Json → Option α) : Option Json → Option α
  | some j => decode j
  | none => some default

theorem Slot.withDefault_eq (slot : Slot) :
    slot.withDefault default decode = orDefault default decode slot.given? := by
  cases slot <;> rfl

/-- A decoder that accepts exactly the values that stand for something, and gives what they stand
for. -/
def Decodes (decode : Json → Option α) (means : Json → α → Prop) : Prop :=
  ∀ j a, decode j = some a ↔ means j a

theorem orDefault_eq_some_iff (h : ∀ j ∈ given, decode j = some a ↔ means j a) :
    orDefault default decode given = some a ↔ FieldIs means default given a := by
  cases given with
  | none => exact Option.some_inj.trans eq_comm
  | some j => exact h j rfl

theorem Decodes.orDefault_iff (h : Decodes decode means) :
    orDefault default decode given = some a ↔ FieldIs means default given a :=
  orDefault_eq_some_iff fun j _ => h j a

theorem FieldIs.fits (h : FieldIs means default given a) : ∀ j ∈ given, ∃ a, means j a := by
  rintro j rfl
  exact ⟨a, h⟩

theorem exists_fieldIs (default : α) (fits : ∀ j ∈ given, ∃ a, means j a) :
    ∃ a, FieldIs means default given a := by
  cases given with
  | none => exact ⟨default, rfl⟩
  | some j => exact fits j rfl

end FieldIs

/-- A record that gives its fields nothing but values of their kinds. -/
structure Fits (fields : List (String × (Json → Prop))) (j : Json) : Prop where
  record : j.IsRecord fields.length
  each : ∀ f ∈ fields.zipIdx, ∀ given ∈ j.part? f.1.1 f.2, f.1.2 given

/-! ## What single values stand for -/

def IsText (j : Json) (s : String) : Prop := j = .str s

def IsFlag (j : Json) (b : Bool) : Prop := j = .bool b

def IsInt64 (j : Json) (n : Int) : Prop := j = .int n ∧ -Int.pow 2 63 ≤ n ∧ n < Int.pow 2 63

def IsNat64 (j : Json) (n : Nat) : Prop := j = .int n ∧ n < Nat.pow 2 64

def IsUInt8 (j : Json) (v : UInt8) : Prop := j = .int v.toNat

def IsUInt16 (j : Json) (v : UInt16) : Prop := j = .int v.toNat

def IsTexts (j : Json) (names : List String) : Prop := j = .arr (names.map .str)

/-- A number of any form, or null for none. -/
def IsNumber? (j : Json) : Option Float → Prop
  | some x => j = .float x ∨ ∃ n, j = .int n ∧ x = floatOfInt n
  | none => j = .null

theorem decodes_text : Decodes string? IsText := by
  intro j s
  cases j <;> simp [string?, IsText]

theorem decodes_flag : Decodes bool? IsFlag := by
  intro j b
  cases j <;> simp [bool?, IsFlag]

theorem decodes_int64 : Decodes int64? IsInt64 := by
  intro j n
  refine int?_eq_some_iff.trans (and_congr_right fun _ => and_congr_right fun _ => ?_)
  omega

theorem decodes_nat64 : Decodes nat64? IsNat64 := by
  intro j n
  have top : Int.pow 2 64 = Nat.pow 2 64 := rfl
  simp only [nat64?, Option.map_eq_some_iff, int?_eq_some_iff, IsNat64]
  constructor
  · rintro ⟨m, ⟨rfl, low, high⟩, rfl⟩
    exact ⟨by rw [Int.toNat_of_nonneg low], by omega⟩
  · rintro ⟨rfl, small⟩
    exact ⟨n, ⟨rfl, by omega, by omega⟩, Int.toNat_natCast n⟩

theorem decodes_uint8 : Decodes uint8? IsUInt8 := fun _ _ => uint8?_eq_some_iff

theorem decodes_uint16 : Decodes uint16? IsUInt16 := fun _ _ => uint16?_eq_some_iff

theorem decodes_texts : Decodes strings? IsTexts := fun _ _ => strings?_eq_some_iff

theorem decodes_number? : Decodes (nullable? float?) IsNumber? := by
  intro j o
  cases j <;> cases o <;> simp [nullable?, float?, IsNumber?, eq_comm]

end LightSync.Json
