import LightSync.Proofs.Fields

/-!
# Values that are overlaid with others

A value is overlaid with another one by merging objects key by key and replacing anything else. A
field that the value below has is then given by both: what is above, or else what is below. Members
that no field has can be dropped without changing what is given for a field. Neither of these
repeats a key if none was repeated before.

## Main definitions

- `Json.overlay`: a value overlaid with another one
- `Json.Unambiguous`: no key twice, in a value nor in one of its parts
- `Json.only`, `Json.onlyWithin`: a value without the members that no field has

## Main results

- `Json.fieldIs_overlay`: a field means the same over its default as it means alone
- `Json.fieldIs_onlyWithin`: a field means the same without the members that are skipped
-/

namespace LightSync

namespace Json

/-! ## Overlaying -/

mutual

/-- A value overlaid with another one: objects are merged key by key, anything else is replaced. -/
def overlay : Json → Json → Json
  | .obj base, .obj top =>
    .obj (overlayMembers base top ++ top.filter fun m => m.1 ∉ keys base)
  | _, top => top

/-- Members, each overlaid with the member of the same key. -/
def overlayMembers : List (String × Json) → List (String × Json) → List (String × Json)
  | [], _ => []
  | (key, value) :: rest, top =>
    (key, match lookup key top with
      | some other => overlay value other
      | none => value) :: overlayMembers rest top

end

theorem keys_overlayMembers (base top : List (String × Json)) :
    keys (overlayMembers base top) = keys base := by
  induction base with
  | nil => rfl
  | cons m rest ih => exact congrArg (m.1 :: ·) ih

/-- Every member comes from one below, which was overlaid with the member above, if there is one. -/
theorem mem_overlayMembers {base top : List (String × Json)} {m : String × Json}
    (mem : m ∈ overlayMembers base top) :
    ∃ value, (m.1, value) ∈ base ∧
      (m.2 = value ∨ ∃ other, (m.1, other) ∈ top ∧ m.2 = overlay value other) := by
  induction base with
  | nil => cases mem
  | cons below rest ih =>
    obtain ⟨key, value⟩ := below
    rw [overlayMembers] at mem
    cases mem with
    | head =>
      refine ⟨value, List.mem_cons_self .., ?_⟩
      cases above : lookup key top with
      | none => exact .inl rfl
      | some other => exact .inr ⟨other, mem_of_lookup above, rfl⟩
    | tail _ mem =>
      obtain ⟨value, there, from_rest⟩ := ih mem
      exact ⟨value, List.mem_cons_of_mem _ there, from_rest⟩

theorem lookup_append (key : String) (first second : List (String × Json)) :
    lookup key (first ++ second) = (lookup key second).or (lookup key first) := by
  induction first with
  | nil => exact (Option.or_none).symm
  | cons m rest ih => rw [List.cons_append, lookup, ih, Option.or_assoc, lookup]

theorem lookup_overlayMembers (key : String) (base top : List (String × Json)) :
    lookup key (overlayMembers base top) = (lookup key base).map fun value =>
      match lookup key top with
      | some other => overlay value other
      | none => value := by
  induction base with
  | nil => rfl
  | cons m rest ih =>
    obtain ⟨k, v⟩ := m
    rw [overlayMembers, lookup, ih, lookup]
    by_cases here : k = key
    · subst here
      cases lookup k rest <;> simp
    · simp [here]

/-- A field that the object below has is given by both of them: what is above is laid over what is
below. -/
theorem part?_overlay {name : String} {base top : List (String × Json)} {value : Json}
    (here : lookup name base = some value) (place : Nat) :
    (overlay (.obj base) (.obj top)).part? name place =
      some (match lookup name top with
        | some other => overlay value other
        | none => value) := by
  have known : name ∈ keys base := List.mem_map_of_mem (mem_of_lookup here)
  -- What is added at the end are keys that the object below does not have.
  have none_new : lookup name (top.filter fun m => m.1 ∉ keys base) = none := by
    refine lookup_of_not_mem fun mem => ?_
    obtain ⟨m, there, rfl⟩ := List.mem_map.1 mem
    exact of_decide_eq_true (List.mem_filter.1 there).2 known
  rw [overlay, part?, lookup_append, none_new, lookup_overlayMembers, here]
  rfl

/-- Members that only one of them has are kept. -/
example :
    overlay (obj [("a", .int 1), ("b", .obj [("c", .int 2), ("d", .int 3)])])
        (obj [("b", .obj [("d", .null)]), ("e", .arr [])]) =
      obj [("a", .int 1), ("b", .obj [("c", .int 2), ("d", .null)]), ("e", .arr [])] := rfl

section Fields

variable {α : Type} {decode : Json → Option α} {means : Json → α → Prop} {default a : α}
  {name : String} {base top : List (String × Json)} {value : Json}

/-- A field means the same over its default as it means alone, if its kind of values does. -/
theorem fieldIs_overlay (here : lookup name base = some value) (own : means value a ↔ a = default)
    (absorbs : ∀ other, means (overlay value other) a ↔ means other a) (place : Nat) :
    FieldIs means default ((overlay (.obj base) (.obj top)).part? name place) a ↔
      FieldIs means default ((obj top).part? name place) a := by
  rw [part?_overlay here, part?]
  cases lookup name top with
  | none => exact own
  | some other => exact absorbs other

theorem means_iff_eq (h : decode value = some a ↔ means value a)
    (read : decode value = some default) : means value a ↔ a = default := by
  rw [← h, read, Option.some_inj, eq_comm]

/-- A default that is no object is replaced as a whole. -/
theorem Decodes.fieldIs_overlay (h : Decodes decode means) (here : lookup name base = some value)
    (read : decode value = some default) (whole : ∀ other, value.overlay other = other)
    (place : Nat) :
    FieldIs means default ((Json.overlay (.obj base) (.obj top)).part? name place) a ↔
      FieldIs means default ((obj top).part? name place) a :=
  Json.fieldIs_overlay here (means_iff_eq (h value a) read) (fun other => by rw [whole other]) place

end Fields

/-! ## Keys that are not repeated -/

/-- The values of the members of an object, or the items of an array. -/
def parts : Json → List Json
  | .obj members => members.map Prod.snd
  | .arr items => items
  | _ => []

/-- No key stands twice in a value, nor in one of its parts. -/
structure Unambiguous (j : Json) : Prop where
  own : j.KeysOnce
  inner : ∀ part ∈ j.parts, part.KeysOnce

theorem Unambiguous.part? {j : Json} (h : j.Unambiguous) {name : String} {place : Nat} :
    ∀ part ∈ j.part? name place, part.KeysOnce := by
  intro part given
  refine h.inner part ?_
  cases j with
  | obj members => exact List.mem_map_of_mem (f := Prod.snd) (mem_of_lookup given)
  | arr items => exact List.mem_of_getElem? given
  | _ => cases given

/-- A field is read as it should be if values without repeated keys are. -/
theorem Unambiguous.orDefault_iff {α : Type} {decode : Json → Option α} {means : Json → α → Prop}
    {default a : α} {j : Json} {name : String} {place : Nat} (h : j.Unambiguous)
    (each : ∀ {part : Json}, part.KeysOnce → (decode part = some a ↔ means part a)) :
    orDefault default decode (j.part? name place) = some a ↔
      FieldIs means default (j.part? name place) a :=
  orDefault_eq_some_iff fun part given => each (h.part? part given)

theorem KeysOnce.overlay {base top : Json} (below : base.KeysOnce) (above : top.KeysOnce) :
    (base.overlay top).KeysOnce := by
  cases base with
  | obj base =>
    cases top with
    | obj top =>
      rintro _ ⟨⟩
      rw [keys, List.map_append, ← keys, keys_overlayMembers]
      refine List.nodup_append.2 ⟨below base rfl, ?_, ?_⟩
      · exact (above top rfl).sublist (List.filter_sublist.map _)
      · rintro key here _ there rfl
        obtain ⟨m, mem, rfl⟩ := List.mem_map.1 there
        exact of_decide_eq_true (List.mem_filter.1 mem).2 here
    | _ => exact above
  | _ => exact above

theorem Unambiguous.overlay {base top : Json} (below : base.Unambiguous)
    (above : top.Unambiguous) : (base.overlay top).Unambiguous := by
  refine ⟨below.own.overlay above.own, ?_⟩
  cases base with
  | obj base =>
    cases top with
    | obj top =>
      have from_below {key : String} {value : Json} (mem : (key, value) ∈ base) : value.KeysOnce :=
        below.inner value (List.mem_map.2 ⟨_, mem, rfl⟩)
      have from_above {key : String} {value : Json} (mem : (key, value) ∈ top) : value.KeysOnce :=
        above.inner value (List.mem_map.2 ⟨_, mem, rfl⟩)
      intro part mem
      obtain ⟨m, merged, rfl⟩ := List.mem_map.1 mem
      cases List.mem_append.1 merged with
      | inl merged =>
        obtain ⟨value, there, same | ⟨other, over_it, same⟩⟩ := mem_overlayMembers merged
        · exact same ▸ from_below there
        · exact same ▸ (from_below there).overlay (from_above over_it)
      | inr new => exact from_above (List.mem_filter.1 new).1
    | _ => exact above.inner
  | _ => exact above.inner

/-! ## Members that are skipped -/

/-- An object without the members that have none of the names. -/
def only (names : List String) : Json → Json
  | .obj members => .obj (members.filter (·.1 ∈ names))
  | j => j

/-- A member that is one of some sections, with nothing but the names of that section in it. -/
def section? (sections : List (String × List String)) (m : String × Json) :
    Option (String × Json) :=
  (sections.lookup m.1).map fun names => (m.1, m.2.only names)

/-- An object without the members that are none of the sections, nor in one of them. -/
def onlyWithin (sections : List (String × List String)) : Json → Json
  | .obj members => .obj (members.filterMap (section? sections))
  | j => j

theorem lookup_filter {name : String} {names : List String} (mem : name ∈ names)
    (members : List (String × Json)) :
    lookup name (members.filter (·.1 ∈ names)) = lookup name members := by
  induction members with
  | nil => rfl
  | cons m rest ih =>
    rw [List.filter_cons, lookup]
    split
    · rw [lookup, ih]
    · rename_i other
      have differs : ¬ m.1 = name := by
        rintro rfl
        exact other (decide_eq_true mem)
      rw [ih, if_neg differs, Option.or_none]

theorem part?_only {name : String} {names : List String} (mem : name ∈ names) (j : Json)
    (place : Nat) : (j.only names).part? name place = j.part? name place := by
  cases j with
  | obj members => exact lookup_filter mem members
  | _ => rfl

theorem isRecord_only {names : List String} {fields : Nat} {j : Json} :
    (j.only names).IsRecord fields ↔ j.IsRecord fields := by
  cases j <;> rfl

theorem KeysOnce.only {j : Json} (h : j.KeysOnce) (names : List String) :
    (j.only names).KeysOnce := by
  cases j with
  | obj members =>
    rintro _ ⟨⟩
    exact (h members rfl).sublist (List.filter_sublist.map _)
  | _ => exact h

section OnlyWithin

variable {sections : List (String × List String)} {name : String} {names : List String}

theorem lookup_onlyWithin (here : sections.lookup name = some names)
    (members : List (String × Json)) :
    lookup name (members.filterMap (section? sections)) =
      (lookup name members).map (only names) := by
  induction members with
  | nil => rfl
  | cons m rest ih =>
    obtain ⟨key, value⟩ := m
    rw [List.filterMap_cons, section?, lookup]
    by_cases same : key = name
    · subst same
      rw [here, Option.map_some, lookup, ih]
      cases lookup key rest <;> simp
    · cases sections.lookup key <;> simp [lookup, ih, same]

theorem keys_onlyWithin_sublist (members : List (String × Json)) :
    (keys (members.filterMap (section? sections))).Sublist (keys members) := by
  induction members with
  | nil => exact .slnil
  | cons m rest ih =>
    rw [List.filterMap_cons, section?]
    cases sections.lookup m.1 with
    | none => exact ih.cons _
    | some _ => exact ih.cons_cons _

theorem Unambiguous.onlyWithin {j : Json} (h : j.Unambiguous) :
    (j.onlyWithin sections).Unambiguous := by
  cases j with
  | obj members =>
    refine ⟨?_, ?_⟩
    · rintro _ ⟨⟩
      exact (h.own members rfl).sublist (keys_onlyWithin_sublist members)
    · intro part mem
      obtain ⟨_, kept, rfl⟩ := List.mem_map.1 mem
      obtain ⟨m, there, made⟩ := List.mem_filterMap.1 kept
      obtain ⟨names, -, rfl⟩ := Option.map_eq_some_iff.1 made
      exact (h.inner m.2 (List.mem_map_of_mem there)).only names
  | _ => exact h

/-- A field of a section means the same without the members that are skipped, if the section
does. -/
theorem fieldIs_onlyWithin {α : Type} {means : Json → α → Prop} {default a : α}
    {members : List (String × Json)} (here : sections.lookup name = some names)
    (same : ∀ value, means (only names value) a ↔ means value a) (place : Nat) :
    FieldIs means default (((obj members).onlyWithin sections).part? name place) a ↔
      FieldIs means default ((obj members).part? name place) a := by
  rw [Json.onlyWithin, Json.part?, lookup_onlyWithin here, Json.part?]
  cases lookup name members with
  | none => rfl
  | some value => exact same value

end OnlyWithin

end Json

end LightSync
