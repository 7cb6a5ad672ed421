import LightSync.Text.Quoted

/-!
# Finite sets of names

Light numbers and entity ids are compared as texts, by code points. A set of names is a strictly
ascending list, so two sets with the same members are equal and the order in which members are
shown is part of the value.

## Main definitions

- `NameSet`: the type, with `∈`, `insert`, `erase` and `ofList`
- `NameSet.mem_insert`, `NameSet.mem_erase`, `NameSet.mem_ofList`: members of each
- `NameSet.ext`: sets with the same members are equal
-/

namespace LightSync

theorem text_lt_of_not_lt {a b : String} (h : ¬ a < b) (ne : a ≠ b) : b < a := by
  have le : b ≤ a := String.not_lt.1 h
  exact Classical.byContradiction fun no =>
    ne (String.le_antisymm (String.not_lt.1 no) le)

abbrev Ascending (names : List String) : Prop := names.Pairwise (· < ·)

/-- Puts a name in its place in an ascending list that may already hold it. -/
def insertName (name : String) : List String → List String
  | [] => [name]
  | n :: rest =>
    if name < n then name :: n :: rest
    else if name = n then n :: rest
    else n :: insertName name rest

theorem mem_insertName {name x : String} {names : List String} :
    x ∈ insertName name names ↔ x = name ∨ x ∈ names := by
  induction names with
  | nil => simp [insertName]
  | cons n rest ih =>
    unfold insertName
    split
    · simp
    · split
      · rename_i _ eq
        subst eq
        simp
      · simp only [List.mem_cons, ih]
        constructor <;> rintro (h | h | h) <;> simp [h]

theorem ascending_insertName {name : String} {names : List String} (h : Ascending names) :
    Ascending (insertName name names) := by
  induction names with
  | nil => simp [insertName]
  | cons n rest ih =>
    obtain ⟨head, tail⟩ := List.pairwise_cons.1 h
    unfold insertName
    split
    · rename_i lt
      refine List.pairwise_cons.2 ⟨fun x mem => ?_, h⟩
      rcases List.mem_cons.1 mem with rfl | mem
      · exact lt
      · exact String.lt_trans lt (head x mem)
    · split
      · exact h
      · rename_i notLt ne
        refine List.pairwise_cons.2 ⟨fun x mem => ?_, ih tail⟩
        rcases mem_insertName.1 mem with rfl | mem
        · exact text_lt_of_not_lt notLt ne
        · exact head x mem

/-- A finite set of names. -/
structure NameSet where
  toList : List String
  ascending : Ascending toList
deriving DecidableEq

namespace NameSet

instance : Membership String NameSet := ⟨fun s name => name ∈ s.toList⟩

theorem mem_def {s : NameSet} {name : String} : name ∈ s ↔ name ∈ s.toList := Iff.rfl

instance (name : String) (s : NameSet) : Decidable (name ∈ s) :=
  inferInstanceAs (Decidable (name ∈ s.toList))

def empty : NameSet := ⟨[], List.Pairwise.nil⟩

instance : EmptyCollection NameSet := ⟨empty⟩
instance : Inhabited NameSet := ⟨empty⟩

theorem not_mem_empty {name : String} : name ∉ (∅ : NameSet) := List.not_mem_nil

def isEmpty (s : NameSet) : Bool := s.toList.isEmpty

theorem isEmpty_iff {s : NameSet} : s.isEmpty = true ↔ s = ∅ := by
  obtain ⟨names, h⟩ := s
  cases names with
  | nil => exact ⟨fun _ => rfl, fun _ => rfl⟩
  | cons n rest =>
    refine ⟨fun no => by simp [isEmpty] at no, fun eq => ?_⟩
    have := congrArg toList eq
    cases this

def contains (s : NameSet) (name : String) : Bool := decide (name ∈ s)

def insert (s : NameSet) (name : String) : NameSet :=
  ⟨insertName name s.toList, ascending_insertName s.ascending⟩

theorem mem_insert {s : NameSet} {name x : String} : x ∈ s.insert name ↔ x = name ∨ x ∈ s :=
  mem_insertName

def erase (s : NameSet) (name : String) : NameSet :=
  ⟨s.toList.filter (· != name), s.ascending.filter _⟩

theorem mem_erase {s : NameSet} {name x : String} : x ∈ s.erase name ↔ x ∈ s ∧ x ≠ name := by
  simp [mem_def, erase]

def ofList (names : List String) : NameSet := names.foldl insert ∅

theorem mem_foldl_insert {names : List String} {s : NameSet} {x : String} :
    x ∈ names.foldl insert s ↔ x ∈ names ∨ x ∈ s := by
  induction names generalizing s with
  | nil => simp
  | cons n rest ih =>
    simp only [List.foldl_cons, ih, mem_insert, List.mem_cons, or_assoc]
    exact or_left_comm

theorem mem_ofList {names : List String} {x : String} : x ∈ ofList names ↔ x ∈ names := by
  simp [ofList, mem_foldl_insert, not_mem_empty]

def singleton (name : String) : NameSet := ofList [name]

theorem mem_singleton {name x : String} : x ∈ singleton name ↔ x = name := by
  simp [singleton, mem_ofList]

/-- Ascending lists with the same members are equal. -/
theorem ascending_ext {a b : List String} (ha : Ascending a) (hb : Ascending b)
    (h : ∀ x, x ∈ a ↔ x ∈ b) : a = b := by
  induction a generalizing b with
  | nil =>
    cases b with
    | nil => rfl
    | cons y ys => exact absurd ((h y).2 (List.mem_cons_self ..)) List.not_mem_nil
  | cons x xs ih =>
    cases b with
    | nil => exact absurd ((h x).1 (List.mem_cons_self ..)) List.not_mem_nil
    | cons y ys =>
      obtain ⟨headA, tailA⟩ := List.pairwise_cons.1 ha
      obtain ⟨headB, tailB⟩ := List.pairwise_cons.1 hb
      have same : x = y := by
        rcases List.mem_cons.1 ((h x).1 (List.mem_cons_self ..)) with eq | inYs
        · exact eq
        · rcases List.mem_cons.1 ((h y).2 (List.mem_cons_self ..)) with eq | inXs
          · exact eq.symm
          · exact absurd (headB x inYs) (String.lt_asymm (headA y inXs))
      subst same
      congr 1
      refine ih tailA tailB fun z => ⟨fun mem => ?_, fun mem => ?_⟩
      · rcases List.mem_cons.1 ((h z).1 (List.mem_cons_of_mem _ mem)) with rfl | mem'
        · exact absurd (headA z mem) (String.lt_irrefl z)
        · exact mem'
      · rcases List.mem_cons.1 ((h z).2 (List.mem_cons_of_mem _ mem)) with rfl | mem'
        · exact absurd (headB z mem) (String.lt_irrefl z)
        · exact mem'

/-- Sets with the same members are equal. -/
theorem ext {s t : NameSet} (h : ∀ x, x ∈ s ↔ x ∈ t) : s = t := by
  obtain ⟨a, ha⟩ := s
  obtain ⟨b, hb⟩ := t
  have : a = b := ascending_ext ha hb h
  subst this
  rfl

/-- Quoted members between braces. -/
def display (s : NameSet) : String := Text.braceList s.toList

end NameSet
end LightSync
