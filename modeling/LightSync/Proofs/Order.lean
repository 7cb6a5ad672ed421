import LightSync.Bridge.Order
import Mathlib.Data.List.Nodup

/-!
# Sorting by number

`bridgeOrder` is a total order on all texts, in which only equal texts compare equal. So a list
whose numbers are distinct is strictly ascending once it is sorted, and it can be put in order in
one way only.
-/

namespace LightSync.Bridge

instance : Std.TransCmp bridgeOrder :=
  inferInstanceAs (Std.TransCmp (compareLex (compareOn String.utf8ByteSize) compare))

instance : Std.LawfulEqCmp bridgeOrder where
  eq_of_compare {a b} same := by
    obtain ⟨-, texts⟩ := Ordering.then_eq_eq.1 same
    exact Std.LawfulEqOrd.eq_of_compare texts

theorem isLE_bridgeOrder_of_not {a b : String} (h : ¬ (bridgeOrder a b).isLE = true) :
    (bridgeOrder b a).isLE = true := by
  have swap : bridgeOrder b a = (bridgeOrder a b).swap := Std.OrientedCmp.eq_swap
  rw [swap]
  cases order : bridgeOrder a b with
  | gt => rfl
  | lt | eq =>
    rw [order] at h
    exact absurd rfl h

variable {α : Type} {number : α → String}

theorem perm_insertByNumber (x : α) (items : List α) :
    (insertByNumber number x items).Perm (x :: items) := by
  induction items with
  | nil => exact .refl _
  | cons y rest ih =>
    unfold insertByNumber
    split
    · exact .refl _
    · exact (ih.cons y).trans (.swap x y rest)

theorem perm_sortByNumber (items : List α) : (sortByNumber number items).Perm items := by
  unfold sortByNumber
  induction items with
  | nil => exact .refl _
  | cons x rest ih => exact (perm_insertByNumber x _).trans (ih.cons x)

/-- No item is listed after one with a larger number. -/
abbrev InOrder (number : α → String) (items : List α) : Prop :=
  items.Pairwise fun a b => (bridgeOrder (number a) (number b)).isLE = true

theorem InOrder.insertByNumber {items : List α} (h : InOrder number items) (x : α) :
    InOrder number (insertByNumber number x items) := by
  induction items with
  | nil => exact List.pairwise_singleton ..
  | cons y rest ih =>
    obtain ⟨first, later⟩ := List.pairwise_cons.1 h
    unfold Bridge.insertByNumber
    split
    · next before =>
      refine List.pairwise_cons.2 ⟨fun z mem => ?_, h⟩
      rcases List.mem_cons.1 mem with rfl | mem
      · exact before
      · exact Std.TransCmp.isLE_trans before (first z mem)
    · next after =>
      refine List.pairwise_cons.2 ⟨fun z mem => ?_, ih later⟩
      rcases List.mem_cons.1 ((perm_insertByNumber x rest).mem_iff.1 mem) with rfl | mem
      · exact isLE_bridgeOrder_of_not after
      · exact first z mem

theorem inOrder_sortByNumber (items : List α) : InOrder number (sortByNumber number items) := by
  unfold sortByNumber
  induction items with
  | nil => exact .nil
  | cons x rest ih => exact ih.insertByNumber x

theorem nodup_sortByNumber_iff {items : List α} :
    ((sortByNumber number items).map number).Nodup ↔ (items.map number).Nodup :=
  ((perm_sortByNumber items).map number).nodup_iff

/-- Items with distinct numbers are strictly ascending once they are sorted. -/
theorem pairwise_sortByNumber {items : List α} (distinct : (items.map number).Nodup) :
    (sortByNumber number items).Pairwise fun a b => bridgeOrder (number a) (number b) = .lt := by
  refine (inOrder_sortByNumber items).imp₂ (fun a b before differ => ?_)
    (List.pairwise_map.1 (nodup_sortByNumber_iff.2 distinct))
  rcases Ordering.isLE_iff_eq_lt_or_eq_eq.1 before with less | same
  · exact less
  · exact absurd (Std.LawfulEqCmp.eq_of_compare same) differ

/-- Items with distinct numbers can be put in order in one way only. -/
theorem InOrder.eq_of_perm {items items' : List α} (ordered : InOrder number items)
    (ordered' : InOrder number items') (distinct : (items.map number).Nodup)
    (perm : items.Perm items') : items = items' := by
  refine List.Perm.eq_of_pairwise (fun a b mem mem' before after => ?_) ordered ordered' perm
  have same : number a = number b :=
    Std.LawfulEqCmp.eq_of_compare (Std.OrientedCmp.isLE_antisymm before after)
  exact List.inj_on_of_nodup_map distinct mem (perm.mem_iff.2 mem') same

/-- Sorting is what puts items with distinct numbers in order. -/
theorem eq_sortByNumber_iff {items sorted : List α} (distinct : (items.map number).Nodup) :
    sorted.Perm items ∧ InOrder number sorted ↔ sorted = sortByNumber number items := by
  constructor
  · rintro ⟨perm, ordered⟩
    exact ordered.eq_of_perm (inOrder_sortByNumber items)
      ((perm.map number).nodup_iff.2 distinct) (perm.trans (perm_sortByNumber items).symm)
  · rintro rfl
    exact ⟨perm_sortByNumber items, inOrder_sortByNumber items⟩

end LightSync.Bridge
