import LightSync.Household.Call
import LightSync.Household.Entity
import LightSync.Proofs.Reading
import LightSync.Settings

/-!
# Records that were written

A record is written as an object that has its fields under their names, and may leave out those that
are null. Reading it finds at the place of each field what was written there, so a record is read
back as it was if each of its fields is. A fade and a color temperature are moved into their ranges
when they are read, which leaves those alone that already are in range.

## Main definitions

- `Json.Canonical`: values in canonical form
- `Json.Survives`: a value that is read back as it was written
- `Slot.ofOption`: the place of a field that may be left out
- `Fade.InRange`: fades of at most the longest one

## Main results

- `Json.slots?_sparse`: the places of the fields of an object that leaves out what is null
- `Fade.inRange_iff_ofSeconds`: the fades in range are those that were built from seconds
-/

namespace LightSync

namespace Json

/-! ## Canonical values -/

/-- A value in canonical form: the members of each object ascend by key. -/
inductive Canonical : Json → Prop where
  | null : Canonical .null
  | bool (b : Bool) : Canonical (.bool b)
  | int (n : Int) : Canonical (.int n)
  | float (x : Float) : Canonical (.float x)
  | str (s : String) : Canonical (.str s)
  | arr {items : List Json} (each : ∀ j ∈ items, Canonical j) : Canonical (.arr items)
  | obj {members : List (String × Json)} (ascending : Ascending (keys members))
    (each : ∀ m ∈ members, Canonical m.2) : Canonical (.obj members)

/-- A member whose key comes after all others is put at the end. -/
theorem insertMember_of_last {key : String} {members : List (String × Json)}
    (last : ∀ k ∈ keys members, k < key) (value : Json) :
    insertMember key value members = members ++ [(key, value)] := by
  induction members with
  | nil => rfl
  | cons m rest ih =>
    obtain ⟨k, v⟩ := m
    have before : k < key := last k (List.mem_cons_self ..)
    have after : ¬ key < k := String.lt_asymm before
    have differ : ¬ key = k := by
      rintro rfl
      exact String.lt_irrefl key before
    rw [insertMember, if_neg after, if_neg differ,
      ih fun k' mem => last k' (List.mem_cons_of_mem _ mem)]
    rfl

theorem values?_of_each {items : List Json} (each : ∀ j ∈ items, j.value? = some j) :
    values? items = some items := by
  induction items with
  | nil => rfl
  | cons j rest ih =>
    rw [values?, each j (List.mem_cons_self ..),
      ih fun j' mem => each j' (List.mem_cons_of_mem _ mem)]
    rfl

theorem members?_of_each {members done : List (String × Json)}
    (ascending : Ascending (keys (done ++ members))) (each : ∀ m ∈ members, m.2.value? = some m.2) :
    members? members done = some (done ++ members) := by
  induction members generalizing done with
  | nil => rw [members?, List.append_nil]
  | cons m rest ih =>
    obtain ⟨k, v⟩ := m
    have last : ∀ k' ∈ keys done, k' < k := by
      rw [keys, List.map_append, List.map_cons] at ascending
      exact fun k' mem => (List.pairwise_append.1 ascending).2.2 k' mem k (List.mem_cons_self ..)
    have split : done ++ (k, v) :: rest = (done ++ [(k, v)]) ++ rest := by simp
    have here : v.value? = some v := each (k, v) (List.mem_cons_self ..)
    rw [split] at ascending ⊢
    rw [members?, here, Option.bind_eq_bind, Option.bind_some, insertMember_of_last last]
    exact ih ascending fun m' mem => each m' (List.mem_cons_of_mem _ mem)

theorem value?_of_canonical {j : Json} (h : j.Canonical) : j.value? = some j := by
  induction h with
  | null | bool | int | float | str => rfl
  | arr each ih => rw [value?, values?_of_each ih, Option.map_some]
  | @obj members ascending each ih =>
    have put : members? members [] = some ([] ++ members) := members?_of_each ascending ih
    rw [value?, put, Option.map_some, List.nil_append]

/-! ## Single values -/

section Survives

variable {α : Type} {decode : Json → Option α} {encode : α → Json}

/-- A value that is written as something else than null, and read back as it was. -/
structure Survives (decode : Json → Option α) (encode : α → Json) (a : α) : Prop where
  given : encode a ≠ .null
  read : decode (encode a) = some a

theorem Survives.nullable? {a : α} (h : Survives decode encode a) :
    nullable? decode (encode a) = some (some a) := by
  have given := h.given
  have read := h.read
  generalize encode a = j at given read
  cases j with
  | null => exact absurd rfl given
  | _ => exact congrArg (Option.map some) read

/-- What may be null is read back if null stands for nothing else. -/
theorem nullable?_ofOption {o : Option α} (each : ∀ a ∈ o, Survives decode encode a) :
    nullable? decode (ofOption encode o) = some o := by
  cases o with
  | none => rfl
  | some a => exact (each a rfl).nullable?

end Survives

theorem survives_bool (b : Bool) : Survives bool? .bool b := ⟨nofun, rfl⟩

theorem survives_str (s : String) : Survives string? .str s := ⟨nofun, rfl⟩

theorem survives_uint8 (v : UInt8) : Survives uint8? (fun v => .ofNat v.toNat) v :=
  ⟨nofun, uint8?_eq_some_iff.2 rfl⟩

theorem survives_uint16 (v : UInt16) : Survives uint16? (fun v => .ofNat v.toNat) v :=
  ⟨nofun, uint16?_eq_some_iff.2 rfl⟩

theorem strings?_strings (names : List String) : strings? (.strings names) = some names :=
  strings?_eq_some_iff.2 rfl

theorem nat64?_ofNat {n : Nat} (small : n < Nat.pow 2 64) : nat64? (.ofNat n) = some n := by
  have bounds : (0 : Int) ≤ n ∧ (n : Int) ≤ Int.pow 2 64 - 1 := by
    have top : Int.pow 2 64 = Nat.pow 2 64 := rfl
    omega
  rw [nat64?, ofNat, int?, if_pos bounds]
  rfl

theorem int64?_int {n : Int} (low : -Int.pow 2 63 ≤ n) (high : n < Int.pow 2 63) :
    int64? (.int n) = some n :=
  if_pos ⟨low, Int.le_sub_one_of_lt high⟩

theorem survives_float {x : Float} (finite : x.isFinite = true) : Survives float? .ofFloat x := by
  have written : Json.ofFloat x = .float x := if_pos finite
  refine ⟨?_, ?_⟩
  · rw [written]
    exact nofun
  · rw [written]
    rfl

/-! ## The places of fields -/

/-- The place of a field that is left out if it is null. -/
def Slot.ofOption : Option Json → Slot
  | some value => .given value
  | none => .absent

/-- Where no key is given twice, a key has one member. -/
theorem filter_of_mem {β : Type} {members : List (String × β)} (once : (members.map (·.1)).Nodup)
    {key : String} {value : β} (mem : (key, value) ∈ members) :
    members.filter (·.1 = key) = [(key, value)] := by
  induction members with
  | nil => cases mem
  | cons m rest ih =>
    obtain ⟨first, later⟩ := List.nodup_cons.1 once
    rcases List.mem_cons.1 mem with same | mem
    · have here : m.1 = key := congrArg Prod.fst same.symm
      have none : rest.filter (·.1 = key) = [] := by
        refine List.filter_eq_nil_iff.2 fun m' mem' there => first ?_
        exact List.mem_map.2 ⟨m', mem', (of_decide_eq_true there).trans here.symm⟩
      rw [List.filter_cons_of_pos (by simpa using here), none, same]
    · have differ : ¬ m.1 = key := fun here => first (List.mem_map.2 ⟨_, mem, here.symm⟩)
      rw [List.filter_cons_of_neg (by simpa using differ)]
      exact ih later mem

/-- The members that an object has of a key are what was written of them. -/
theorem filter_written (members : List (String × Option Json)) (key : String) :
    (members.filterMap fun (k, v) => v.map (k, ·)).filter (·.1 = key) =
      (members.filter (·.1 = key)).filterMap fun (k, v) => v.map (k, ·) := by
  rw [List.filter_filterMap, List.filterMap_filter]
  congr 1
  funext ⟨k, v⟩
  by_cases here : k = key
  · cases v <;> simp [here]
  · simp [here]

/-- The places of the fields of an object that leaves out what is null. -/
theorem slots?_sparse {members : List (String × Option Json)} {names : List String}
    (named : members.map (·.1) = names) (once : names.Nodup) :
    (sparse members).slots? names = some (members.map fun m => .ofOption m.2) := by
  subst named
  refine mapM_eq_some_iff.2 ?_
  rw [List.map_map, List.map_map]
  refine List.map_congr_left fun m mem => ?_
  obtain ⟨key, value⟩ := m
  simp only [Function.comp_apply, slot?, filter_written, filter_of_mem once mem]
  cases value with
  | none => rfl
  | some v => rfl

/-- The places of the fields of an object that has all of them. -/
theorem slots?_obj {members : List (String × Json)} {names : List String}
    (named : keys members = names) (once : names.Nodup) :
    (Json.obj members).slots? names = some (members.map fun m => .given m.2) := by
  have written : Json.obj members = sparse (members.map fun m => (m.1, some m.2)) := by
    rw [sparse, List.filterMap_map]
    exact congrArg _ (List.filterMap_some).symm
  have named : (members.map fun m => (m.1, some m.2)).map (·.1) = names := by
    rw [List.map_map]
    exact named
  rw [written, slots?_sparse named once, List.map_map]
  rfl

namespace Slot

variable {α : Type} {decode : Json → Option α} {encode : α → Json} {o : Option α}

/-- A field that is left out if it is null is read back. -/
theorem optional_ofOption (each : ∀ a ∈ o, Survives decode encode a) :
    (ofOption (o.map encode)).optional decode = some o := by
  cases o with
  | none => rfl
  | some a => exact (each a rfl).nullable?

/-- A field that is left out if it is null is read back, if null is its default. -/
theorem withDefault_ofOption (each : ∀ a ∈ o, Survives decode encode a) :
    (ofOption (o.map encode)).withDefault none (nullable? decode) = some o := by
  cases o with
  | none => rfl
  | some a => exact (each a rfl).nullable?

end Slot
end Json

/-! ## Fades -/

namespace Fade

/-- A fade of at least none, and of at most the longest one. -/
structure InRange (f : Fade) : Prop where
  finite : f.seconds.isFinite = true
  least : 0.0 ≤ f.seconds
  most : f.seconds ≤ 6553.0

theorem inRange_ofSeconds (x : Float) : (ofSeconds x).InRange := by
  unfold ofSeconds
  split
  · next valid =>
    split
    · next short => exact ⟨valid.1, valid.2, short⟩
    · exact ⟨by decide, by decide, by decide⟩
  · exact ⟨by decide, by decide, by decide⟩

/-- A fade that is in range is left alone. -/
theorem InRange.ofSeconds {f : Fade} (h : f.InRange) : .ofSeconds f.seconds = f := by
  have short : f.seconds ≤ longest := h.most
  rw [Fade.ofSeconds, if_pos ⟨h.finite, h.least⟩, if_pos short]

/-- The fades in range are those that were built from seconds. -/
theorem inRange_iff_ofSeconds {f : Fade} : f.InRange ↔ ∃ x, .ofSeconds x = f := by
  constructor
  · exact fun h => ⟨f.seconds, h.ofSeconds⟩
  · rintro ⟨x, rfl⟩
    exact inRange_ofSeconds x

theorem InRange.survives {f : Fade} (h : f.InRange) : Json.Survives ofJson? toJson f where
  given := (Json.survives_float h.finite).given
  read := by rw [ofJson?, toJson, (Json.survives_float h.finite).read, Option.map_some, h.ofSeconds]

end Fade

/-! ## Values written as any number -/

namespace Household

/-- Small integers are doubles. -/
theorem truncate_floatOfInt (n : Fin 455) :
    (Decimal.Dyadic.ofFloat? (Json.floatOfInt n)).map (·.truncate) = some (n : Int) := by
  decide +kernel +revert

/-- A small integer within the bounds is left alone, also when it is read as a double. -/
theorem clampTruncated_floatOfInt {lo hi : Int} {n : Nat} (small : n < 455) (low : lo ≤ n)
    (high : (n : Int) ≤ hi) : Decimal.clampTruncated lo hi (Json.floatOfInt n) = n := by
  obtain ⟨d, read, value⟩ := Option.map_eq_some_iff.1 (truncate_floatOfInt ⟨n, small⟩)
  have read : Decimal.Dyadic.ofFloat? (Json.floatOfInt n) = some d := read
  have value : d.truncate = n := value
  simp only [Decimal.clampTruncated, read, value]
  exact Decimal.clampInt_of_mem low high

theorem survives_brightness (v : UInt8) :
    Json.Survives brightness? (fun v => .ofNat v.toNat) v where
  given := nofun
  read := by
    have small := v.toNat_lt
    have low : (0 : Int) ≤ v.toNat := by omega
    have high : (v.toNat : Int) ≤ 255 := by omega
    have read : brightness? (.ofNat v.toNat) = some (clampHostBrightness
        (Decimal.clampTruncated 0 255 (Json.floatOfInt v.toNat))) := rfl
    rw [read, clampTruncated_floatOfInt (by omega) low high, clampHostBrightness,
      Decimal.clampInt_of_mem low high, Int.toNat_natCast, UInt8.ofNat_toNat]

theorem survives_colorTemp {v : UInt16} (mem : 153 ≤ v.toNat ∧ v.toNat ≤ 454) :
    Json.Survives colorTemp? (fun v => .ofNat v.toNat) v where
  given := nofun
  read := by
    have read : colorTemp? (.ofNat v.toNat) = some (ColorTemp.clamped
        (Decimal.clampTruncated 153 454 (Json.floatOfInt v.toNat))).mirek := rfl
    rw [read, clampTruncated_floatOfInt (by omega) (by omega) (by omega),
      ColorTemp.clamped_of_mem mem]

end Household
end LightSync
