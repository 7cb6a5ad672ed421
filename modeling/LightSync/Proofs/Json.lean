import LightSync.Bridge.Listing
import LightSync.Bridge.Reply
import LightSync.NameSet

/-!
# Members of objects

Canonical objects ascend by key, so a key leads to at most one member. Putting members one after
the other into an object keeps the last one of each key, and this is the one that `lookup` finds
among the members as they were written. Decoders of single values are told apart by what they
accept.

## Main definitions

- `Json.keys`: the keys of members
-/

namespace LightSync

namespace Json

def keys (members : List (String × Json)) : List String := members.map (·.1)

/-! ## Looking up keys -/

theorem lookup_of_not_mem {key : String} {members : List (String × Json)}
    (h : key ∉ keys members) : lookup key members = none := by
  induction members with
  | nil => rfl
  | cons m rest ih =>
    obtain ⟨k, v⟩ := m
    simp only [keys, List.map_cons, List.mem_cons, not_or] at h
    have differ : ¬ k = key := fun same => h.1 same.symm
    rw [lookup, ih h.2, if_neg differ]
    rfl

theorem lookup_isSome_of_mem {key : String} {members : List (String × Json)}
    (mem : key ∈ keys members) : ∃ value, lookup key members = some value := by
  induction members with
  | nil => cases mem
  | cons m rest ih =>
    obtain ⟨k, v⟩ := m
    rw [lookup]
    rcases List.mem_cons.1 mem with rfl | later
    · cases lookup key rest with
      | none => exact ⟨v, by simp⟩
      | some value => exact ⟨value, rfl⟩
    · obtain ⟨value, found⟩ := ih later
      exact ⟨value, by rw [found]; rfl⟩

theorem mem_of_lookup {key : String} {value : Json} {members : List (String × Json)}
    (h : lookup key members = some value) : (key, value) ∈ members := by
  induction members with
  | nil => cases h
  | cons m rest ih =>
    obtain ⟨k, v⟩ := m
    rcases Option.or_eq_some_iff.1 h with later | ⟨-, here⟩
    · exact List.mem_cons_of_mem _ (ih later)
    · split at here
      · next same =>
        cases here
        exact same ▸ List.mem_cons_self ..
      · cases here

/-- Where no key is given twice, the lookup finds exactly the members. -/
theorem lookup_eq_some_iff {key : String} {value : Json} {members : List (String × Json)}
    (h : Ascending (keys members)) : lookup key members = some value ↔ (key, value) ∈ members := by
  induction members with
  | nil => simp [lookup]
  | cons m rest ih =>
    obtain ⟨k, v⟩ := m
    obtain ⟨head, tail⟩ := List.pairwise_cons.1 h
    rw [lookup, List.mem_cons, Prod.mk.injEq]
    by_cases here : k = key
    · subst here
      have once : k ∉ keys rest := fun mem => String.lt_irrefl k (head k mem)
      have absent : (k, value) ∉ rest := fun mem => once (List.mem_map_of_mem mem)
      rw [lookup_of_not_mem once, if_pos rfl]
      simp [absent, eq_comm]
    · have there : ¬ key = k := fun same => here same.symm
      rw [if_neg here, Option.or_none, ih tail]
      simp [there]

/-! ## Putting members into objects -/

theorem keys_insertMember (key : String) (value : Json) (members : List (String × Json)) :
    keys (insertMember key value members) = insertName key (keys members) := by
  induction members with
  | nil => rfl
  | cons m rest ih =>
    obtain ⟨k, v⟩ := m
    simp only [insertMember, keys, List.map_cons, insertName]
    split
    · rfl
    · split
      · rename_i same
        subst same
        rfl
      · simpa [keys] using ih

theorem ascending_insertMember {members : List (String × Json)} (h : Ascending (keys members))
    (key : String) (value : Json) : Ascending (keys (insertMember key value members)) := by
  rw [keys_insertMember]
  exact ascending_insertName h

/-- A member that is put in replaces the one with its key, and leaves the others. -/
theorem lookup_insertMember {members : List (String × Json)} (h : Ascending (keys members))
    (key other : String) (value : Json) :
    lookup other (insertMember key value members) =
      if key = other then some value else lookup other members := by
  induction members with
  | nil => simp [insertMember, lookup]
  | cons m rest ih =>
    obtain ⟨k, v⟩ := m
    obtain ⟨head, tail⟩ := List.pairwise_cons.1 h
    unfold insertMember
    split
    · rename_i before
      -- A key before the first one occurs nowhere in members that ascend.
      have absent : key ∉ keys ((k, v) :: rest) := by
        intro mem
        rcases List.mem_cons.1 mem with rfl | mem
        · exact String.lt_irrefl key before
        · exact String.lt_irrefl key (String.lt_trans before (head key mem))
      by_cases here : key = other
      · subst here
        rw [lookup, lookup_of_not_mem absent]
        simp
      · rw [lookup, if_neg here, if_neg here, Option.or_none]
    · split
      · rename_i same
        subst same
        by_cases here : key = other
        · subst here
          have absent : key ∉ keys rest := fun mem => String.lt_irrefl key (head key mem)
          simp [lookup, lookup_of_not_mem absent]
        · simp [lookup, here]
      · rename_i differ
        rw [lookup, lookup, ih tail]
        by_cases here : key = other
        · simp [here]
        · simp [here]

end Json

namespace Bridge

open Json

theorem distinctMembers_spec (members done : List (String × Json))
    (h : Ascending (keys done)) :
    let put := members.foldl (fun done (k, v) => insertMember k v done) done
    Ascending (keys put) ∧ ∀ key, lookup key put = (lookup key members).or (lookup key done) := by
  induction members generalizing done with
  | nil => exact ⟨h, fun key => rfl⟩
  | cons m rest ih =>
    obtain ⟨k, v⟩ := m
    obtain ⟨ascending, found⟩ := ih (insertMember k v done) (ascending_insertMember h k v)
    refine ⟨ascending, ?_⟩
    intro key
    rw [lookup, Option.or_assoc]
    refine (found key).trans ?_
    rw [lookup_insertMember h]
    by_cases here : k = key
    · simp [here]
    · simp [here]

theorem ascending_distinctMembers (members : List (String × Json)) :
    Ascending (keys (distinctMembers members)) :=
  (distinctMembers_spec members [] List.Pairwise.nil).1

/-- The distinct members are those that a lookup finds. -/
theorem mem_distinctMembers {members : List (String × Json)} {key : String} {value : Json} :
    (key, value) ∈ distinctMembers members ↔ lookup key members = some value := by
  rw [← lookup_eq_some_iff (ascending_distinctMembers members)]
  have found := (distinctMembers_spec members [] List.Pairwise.nil).2 key
  rw [show lookup key [] = none from rfl, Option.or_none] at found
  exact iff_of_eq (congrArg (· = some value) found)

end Bridge
end LightSync
