import LightSync.NameSet
import LightSync.Proofs.Order
import Mathlib.Algebra.Group.Nat.Defs
import Mathlib.Logic.ExistsUnique
import Mathlib.Tactic.SplitIfs

/-!
# The order of numbers

`bridgeOrder` reads no numbers. It compares lengths and then texts, and yet it orders numerals by
the numbers that they denote: without leading zeros a longer numeral is the larger one, and of two
numerals of one length the first digit that differs decides. This holds for numerals of any length,
also for those that fit into no machine word. Texts are compared by their characters, which in UTF-8
is the same as by their bytes.

## Main definitions

- `IsNumeral`, `denoted`: decimal numerals without leading zeros, and the numbers they denote
- `utf8Bytes`: the bytes of a text
- `OrdersTexts`: comparisons of texts in which only equal texts compare equal

## Main results

- `lt_iff_utf8Bytes_lt`: the order of characters is the order of bytes
- `bridgeOrder_of_numerals`: numerals are ordered by the numbers they denote
- `existsUnique_numeral`: every number has one numeral
- `numerals_ordered_by_value`: all that is said of the order
-/

namespace LightSync.Bridge

variable {a b : String}

theorem bridgeOrder_eq_lt_iff :
    bridgeOrder a b = .lt ↔
      a.utf8ByteSize < b.utf8ByteSize ∨ a.utf8ByteSize = b.utf8ByteSize ∧ a < b := by
  have texts : compare a b = .lt ↔ a < b := compareOfLessAndEq_eq_lt
  rw [bridgeOrder, Ordering.then_eq_lt, Nat.compare_eq_lt, Nat.compare_eq_eq, texts]

/-! ## A total order -/

/-- A total order on texts, in which only equal texts compare equal. -/
structure OrdersTexts (order : String → String → Ordering) : Prop where
  reversed : ∀ a b, order b a = (order a b).swap
  trans : ∀ a b c, order a b = .lt → order b c = .lt → order a c = .lt
  equal_iff : ∀ a b, order a b = .eq ↔ a = b

theorem ordersTexts_bridgeOrder : OrdersTexts bridgeOrder where
  reversed _ _ := Std.OrientedCmp.eq_swap
  trans _ _ _ before after := Std.TransCmp.lt_trans before after
  equal_iff _ _ := Std.LawfulEqCmp.compare_eq_iff_eq

/-! ## Characters and bytes -/

/-- The bytes of a text. -/
def utf8Bytes (text : String) : List UInt8 := text.toByteArray.data.toList

theorem utf8Bytes_eq_flatMap (text : String) :
    utf8Bytes text = text.toList.flatMap String.utf8EncodeChar := by
  rw [utf8Bytes, ← String.utf8Encode_toList, List.utf8Encode]
  simp

theorem length_utf8Bytes (text : String) : (utf8Bytes text).length = text.utf8ByteSize := rfl

/-- Of two numbers the quotient decides first and the remainder second. -/
theorem div_lt_or_mod_lt {m n : Nat} (p : Nat) (less : m < n) :
    m / p < n / p ∨ m / p = n / p ∧ m % p < n % p := by
  rcases Nat.lt_or_eq_of_le (Nat.div_le_div_right (c := p) (Nat.le_of_lt less)) with quotient | same
  · exact .inl quotient
  · have first := Nat.div_add_mod m p
    have second := Nat.div_add_mod n p
    rw [same] at first
    exact .inr ⟨same, by omega⟩

/-- The bytes of a smaller character come first, whatever follows. -/
theorem utf8EncodeChar_append_lt {c d : Char} (less : c < d) (xs ys : List UInt8) :
    String.utf8EncodeChar c ++ xs < String.utf8EncodeChar d ++ ys := by
  have codes : c.val.toNat < d.val.toNat := UInt32.lt_iff_toNat_lt.1 less
  have valid : d.val.toNat < 0x110000 := by
    rcases d.valid with low | ⟨-, high⟩
    · exact Nat.lt_trans low (by decide)
    · exact high
  unfold String.utf8EncodeChar
  simp only
  generalize c.val.toNat = m, d.val.toNat = n at *
  -- After its first byte a character is written in digits to the base 64.
  have last := div_lt_or_mod_lt 64 codes
  have third := @div_lt_or_mod_lt (m / 64) (n / 64) 64
  have second := @div_lt_or_mod_lt (m / 4096) (n / 4096) 64
  simp only [Nat.div_div_eq_div_mul, Nat.reduceMul] at third second
  have first : m / 262144 % 8 = m / 262144 := Nat.mod_eq_of_lt (by omega)
  have first' : n / 262144 % 8 = n / 262144 := Nat.mod_eq_of_lt (by omega)
  have byte {x : Nat} (h : x < 256) : (UInt8.ofNat x).toNat = x := by simpa using h
  -- The first bytes tell characters of different sizes apart; of those of one size the first digit
  -- that differs decides.
  split_ifs <;>
    simp only [List.cons_append, List.nil_append, List.cons_lt_cons_iff, UInt8.lt_iff_toNat_lt,
      ← UInt8.toNat_inj] <;>
    simp (disch := omega) only [byte, first, first'] <;> omega

theorem flatMap_utf8EncodeChar_lt {cs ds : List Char} (less : cs < ds) :
    cs.flatMap String.utf8EncodeChar < ds.flatMap String.utf8EncodeChar := by
  induction cs generalizing ds with
  | nil =>
    cases ds with
    | nil => exact absurd less (List.lt_irrefl _)
    | cons d ds =>
      rw [List.flatMap_nil, List.flatMap_cons]
      cases encoded : String.utf8EncodeChar d with
      | nil => exact absurd encoded String.utf8EncodeChar_ne_nil
      | cons byte rest => exact List.nil_lt_cons ..
  | cons c cs ih =>
    cases ds with
    | nil => exact absurd less (List.not_lt_nil _)
    | cons d ds =>
      rw [List.flatMap_cons, List.flatMap_cons]
      rcases List.cons_lt_cons_iff.1 less with first | ⟨rfl, later⟩
      · exact utf8EncodeChar_append_lt first ..
      · exact List.append_left_lt (ih later)

/-- Texts are ordered by their characters as they are by their bytes. -/
theorem lt_iff_utf8Bytes_lt : a < b ↔ utf8Bytes a < utf8Bytes b := by
  have mono {a b : String} (less : a < b) : utf8Bytes a < utf8Bytes b := by
    rw [utf8Bytes_eq_flatMap, utf8Bytes_eq_flatMap]
    exact flatMap_utf8EncodeChar_lt less
  refine ⟨mono, fun less => Classical.byContradiction fun no => ?_⟩
  by_cases same : a = b
  · subst same
    exact List.lt_irrefl _ less
  · exact List.lt_asymm less (mono (text_lt_of_not_lt no same))

theorem bridgeOrder_eq_lt_iff_utf8Bytes :
    bridgeOrder a b = .lt ↔ (utf8Bytes a).length < (utf8Bytes b).length ∨
      (utf8Bytes a).length = (utf8Bytes b).length ∧ utf8Bytes a < utf8Bytes b := by
  rw [bridgeOrder_eq_lt_iff, lt_iff_utf8Bytes_lt, length_utf8Bytes, length_utf8Bytes]

/-! ## Digits -/

section Digits

variable {c : Char} {cs ds : List Char}

/-- The number that digits denote. -/
abbrev placeValue (cs : List Char) : Nat := Nat.ofDigitChars 10 cs 0

/-- A digit counts as often as its place says. -/
theorem placeValue_cons :
    placeValue (c :: cs) = 10 ^ cs.length * (c.toNat - 48) + placeValue cs := by
  rw [placeValue, Nat.ofDigitChars_cons, Nat.ofDigitChars_eq_ofDigitChars_zero, Nat.mul_zero,
    Nat.zero_add]
  rfl

/-- A digit outweighs all digits after it. -/
theorem place_lt {x y u v p : Nat} (less : x < y) (small : u < p) : p * x + u < p * y + v :=
  calc p * x + u < p * x + p := by omega
    _ = p * (x + 1) := (Nat.mul_succ ..).symm
    _ ≤ p * y := Nat.mul_le_mul_left p less
    _ ≤ p * y + v := Nat.le_add_right ..

theorem placeValue_lt_pow (digits : ∀ c ∈ cs, c.isDigit = true) :
    placeValue cs < 10 ^ cs.length := by
  induction cs with
  | nil => decide
  | cons c cs ih =>
    obtain ⟨digit, digits⟩ := List.forall_mem_cons.1 digits
    have small : c.toNat ≤ 57 := (Char.isDigit_iff_toNat.1 digit).2
    have := place_lt (y := 10) (v := 0) (by omega : c.toNat - 48 < 10) (ih digits)
    rw [placeValue_cons, List.length_cons, Nat.pow_succ]
    exact this

/-- What does not begin with a zero denotes at least the power of ten of its first place. -/
theorem pow_le_placeValue (digit : c.isDigit = true) (leading : c ≠ '0') :
    10 ^ cs.length ≤ placeValue (c :: cs) := by
  have least : 48 ≤ c.toNat := (Char.isDigit_iff_toNat.1 digit).1
  have nonzero : c.toNat ≠ 48 := fun zero => leading (Char.toNat_inj.1 zero)
  rw [placeValue_cons]
  calc 10 ^ cs.length ≤ 10 ^ cs.length * (c.toNat - 48) := Nat.le_mul_of_pos_right _ (by omega)
    _ ≤ _ := Nat.le_add_right ..

/-- Of equally many digits, those that come first denote the smaller number. -/
theorem placeValue_lt_of_lt (left : ∀ c ∈ cs, c.isDigit = true) (right : ∀ d ∈ ds, d.isDigit = true)
    (lengths : cs.length = ds.length) (less : cs < ds) : placeValue cs < placeValue ds := by
  induction cs generalizing ds with
  | nil =>
    cases ds with
    | nil => exact absurd less (List.lt_irrefl _)
    | cons d ds => cases lengths
  | cons c cs ih =>
    cases ds with
    | nil => cases lengths
    | cons d ds =>
      have places : cs.length = ds.length := Nat.succ.inj lengths
      obtain ⟨digit, lefts⟩ := List.forall_mem_cons.1 left
      obtain ⟨-, rights⟩ := List.forall_mem_cons.1 right
      rw [placeValue_cons, placeValue_cons, ← places]
      rcases List.cons_lt_cons_iff.1 less with first | ⟨rfl, later⟩
      · have codes : c.toNat < d.toNat := UInt32.lt_iff_toNat_lt.1 first
        have least : 48 ≤ c.toNat := (Char.isDigit_iff_toNat.1 digit).1
        exact place_lt (by omega) (placeValue_lt_pow lefts)
      · exact Nat.add_lt_add_left (ih lefts rights places later) _

theorem utf8ByteSize_of_digits (digits : ∀ c ∈ a.toList, c.isDigit = true) :
    a.utf8ByteSize = a.toList.length := by
  rw [← length_utf8Bytes, utf8Bytes_eq_flatMap]
  generalize a.toList = cs at digits
  induction cs with
  | nil => rfl
  | cons c cs ih =>
    obtain ⟨digit, digits⟩ := List.forall_mem_cons.1 digits
    have ascii : c.val ≤ 127 := by
      have small : c.toNat ≤ 57 := (Char.isDigit_iff_toNat.1 digit).2
      exact UInt32.le_iff_toNat_le.2 (Nat.le_trans small (by decide))
    rw [List.flatMap_cons, List.length_append, ih digits, String.length_utf8EncodeChar,
      Char.utf8Size_eq_one_iff.2 ascii, List.length_cons, Nat.add_comm]

end Digits

/-! ## Numerals -/

/-- A decimal numeral without leading zeros. -/
structure IsNumeral (text : String) : Prop where
  nonempty : text ≠ ""
  digits : ∀ c ∈ text.toList, c.isDigit = true
  /-- Only the numeral of zero begins with a zero. -/
  leading : text.toList.head? = some '0' → text = "0"

/-- The digits are tested along the text, not for every character there is. -/
theorem isNumeral_iff {text : String} : IsNumeral text ↔
    text ≠ "" ∧ text.toList.all Char.isDigit = true ∧
      (text.toList.head? = some '0' → text = "0") := by
  rw [List.all_eq_true]
  exact ⟨fun h => ⟨h.nonempty, h.digits, h.leading⟩,
    fun ⟨nonempty, digits, leading⟩ => ⟨nonempty, digits, leading⟩⟩

instance (text : String) : Decidable (IsNumeral text) :=
  decidable_of_iff _ isNumeral_iff.symm

/-- The number that a numeral denotes. -/
def denoted (text : String) : Nat := placeValue text.toList

theorem denoted_lt_of_shorter (first : IsNumeral a) (second : IsNumeral b)
    (shorter : a.toList.length < b.toList.length) : denoted a < denoted b := by
  have positive : 0 < a.toList.length := by
    rw [List.length_pos_iff, ne_eq, String.toList_eq_nil_iff]
    exact first.nonempty
  have digits := second.digits
  unfold denoted
  cases chars : b.toList with
  | nil => rw [chars] at shorter; exact absurd shorter (Nat.not_lt_zero _)
  | cons d ds =>
    rw [chars] at shorter digits
    -- A numeral of at least two digits is not the one of zero.
    have nonzero : d ≠ '0' := by
      rintro rfl
      have zero : b = "0" := second.leading (by rw [chars]; rfl)
      have single : ('0' :: ds).length = 1 := by rw [← chars, zero]; rfl
      omega
    have longer : a.toList.length ≤ ds.length := Nat.le_of_lt_succ shorter
    calc placeValue a.toList < 10 ^ a.toList.length := placeValue_lt_pow first.digits
      _ ≤ 10 ^ ds.length := Nat.pow_le_pow_right (by decide) longer
      _ ≤ placeValue (d :: ds) := pow_le_placeValue (List.forall_mem_cons.1 digits).1 nonzero

theorem denoted_lt_of_before (first : IsNumeral a) (second : IsNumeral b)
    (before : bridgeOrder a b = .lt) : denoted a < denoted b := by
  rw [bridgeOrder_eq_lt_iff, utf8ByteSize_of_digits first.digits,
    utf8ByteSize_of_digits second.digits] at before
  rcases before with shorter | ⟨same, less⟩
  · exact denoted_lt_of_shorter first second shorter
  · exact placeValue_lt_of_lt first.digits second.digits same less

/-- Numerals are ordered by the numbers that they denote. -/
theorem bridgeOrder_of_numerals (first : IsNumeral a) (second : IsNumeral b) :
    bridgeOrder a b = compare (denoted a) (denoted b) := by
  cases order : bridgeOrder a b with
  | lt => exact (Nat.compare_eq_lt.2 (denoted_lt_of_before first second order)).symm
  | eq =>
    have same : a = b := Std.LawfulEqCmp.eq_of_compare order
    rw [same]
    exact (Nat.compare_eq_eq.2 rfl).symm
  | gt =>
    have before : bridgeOrder b a = .lt := Std.OrientedCmp.gt_iff_lt.1 order
    exact (Nat.compare_eq_gt.2 (denoted_lt_of_before second first before)).symm

/-- With a leading zero the smaller number may come later. -/
example : bridgeOrder "01" "2" = .gt := by decide

/-- The digits of a number begin with a zero only if there is no other digit. -/
theorem tail_toDigits_of_zero {n : Nat} {cs : List Char} (digits : Nat.toDigits 10 n = '0' :: cs) :
    cs = [] := by
  cases cs with
  | nil => rfl
  | cons d ds =>
    -- The zero adds nothing, so the number is too small to have all these digits.
    have denotes : placeValue ('0' :: d :: ds) = n := by
      rw [← digits]
      exact Nat.ofDigitChars_ten_toDigits
    have rest : placeValue (d :: ds) = n := by
      rw [← denotes, placeValue_cons (c := '0')]
      simp
    have small : n < 10 ^ (d :: ds).length := by
      rw [← rest]
      refine placeValue_lt_pow fun c mem => ?_
      have mem : c ∈ Nat.toDigits 10 n := by
        rw [digits]
        exact List.mem_cons_of_mem _ mem
      exact Nat.isDigit_of_mem_toDigits (by decide) (by decide) mem
    have few := (Nat.length_toDigits_le_iff (by decide) (Nat.succ_pos _)).2 small
    rw [digits] at few
    exact absurd few (Nat.not_succ_le_self _)

theorem isNumeral_toString (n : Nat) : IsNumeral (toString n) where
  nonempty := Nat.repr_ne_empty
  digits c mem := by
    rw [Nat.toString_eq_repr, Nat.toList_repr] at mem
    exact Nat.isDigit_of_mem_toDigits (by decide) (by decide) mem
  leading zero := by
    rw [Nat.toString_eq_repr, Nat.toList_repr] at zero
    obtain ⟨cs, digits⟩ := List.head?_eq_some_iff.1 zero
    rw [Nat.toString_eq_ofList_toDigits, digits, tail_toDigits_of_zero digits]

theorem denoted_toString (n : Nat) : denoted (toString n) = n := by
  rw [denoted, Nat.toString_eq_repr, Nat.toList_repr]
  exact Nat.ofDigitChars_ten_toDigits

/-- Every number has exactly one numeral. -/
theorem existsUnique_numeral (n : Nat) : ∃! text, IsNumeral text ∧ denoted text = n := by
  have numeral := isNumeral_toString n
  have denotes := denoted_toString n
  refine ⟨toString n, ⟨numeral, denotes⟩, fun text ⟨other, same⟩ => ?_⟩
  -- Numerals of one number compare equal, and then they are equal.
  have equal : bridgeOrder text (toString n) = .eq := by
    rw [bridgeOrder_of_numerals other numeral, Nat.compare_eq_eq, same, denotes]
  exact Std.LawfulEqCmp.eq_of_compare equal

/-! ## Sorted by number -/

section Sorted

variable {α : Type} {number : α → String} {items : List α}

/-- Items whose numbers are distinct numerals are sorted by the numbers denoted. -/
theorem pairwise_denoted_sortByNumber (distinct : (items.map number).Nodup)
    (numerals : ∀ x ∈ items, IsNumeral (number x)) :
    (sortByNumber number items).Pairwise fun x y => denoted (number x) < denoted (number y) := by
  have numeral {x : α} (mem : x ∈ sortByNumber number items) : IsNumeral (number x) :=
    numerals x ((perm_sortByNumber items).mem_iff.1 mem)
  refine (pairwise_sortByNumber distinct).imp_of_mem fun first second before => ?_
  exact denoted_lt_of_before (numeral first) (numeral second) before

end Sorted

/-- The order of numbers is a total order on all texts, in which only equal texts compare equal: a
text comes first if it has fewer bytes, or as many and the first that differs is smaller. Numerals
without leading zeros, of any length, are ordered by the numbers that they denote, and every number
has exactly one such numeral. Items with distinct numbers can be put in order in one way only, and
if their numbers are numerals, what these denote ascends. -/
theorem numerals_ordered_by_value :
    OrdersTexts bridgeOrder ∧
    (∀ a b, bridgeOrder a b = .lt ↔ (utf8Bytes a).length < (utf8Bytes b).length ∨
      (utf8Bytes a).length = (utf8Bytes b).length ∧ utf8Bytes a < utf8Bytes b) ∧
    (∀ a b, IsNumeral a → IsNumeral b → bridgeOrder a b = compare (denoted a) (denoted b)) ∧
    (∀ n, ∃! text, IsNumeral text ∧ denoted text = n) ∧
    ∀ (α : Type) (number : α → String) (items : List α), (items.map number).Nodup →
      (∀ sorted, sorted.Perm items ∧ InOrder number sorted ↔
        sorted = sortByNumber number items) ∧
      ((∀ x ∈ items, IsNumeral (number x)) → (sortByNumber number items).Pairwise
        fun x y => denoted (number x) < denoted (number y)) :=
  ⟨ordersTexts_bridgeOrder, fun _ _ => bridgeOrder_eq_lt_iff_utf8Bytes,
    fun _ _ => bridgeOrder_of_numerals, existsUnique_numeral,
    fun _ _ _ distinct => ⟨fun _ => eq_sortByNumber_iff distinct,
      pairwise_denoted_sortByNumber distinct⟩⟩

/-- Three numbers, two of them beyond 64 bits, in no particular order. -/
def largeNumbers : List String :=
  ["100000000000000000000000", "7", "99999999999999999999999"]

theorem numerals_ordered_by_value_beyond_words :
    IsNumeral "99999999999999999999999" ∧ IsNumeral "100000000000000000000000" ∧
      bridgeOrder "99999999999999999999999" "100000000000000000000000" = .lt ∧
      (largeNumbers.map id).Nodup ∧ (∀ x ∈ largeNumbers, IsNumeral x) ∧
      (sortByNumber id largeNumbers).Pairwise (fun x y => denoted x < denoted y) ∧
      sortByNumber id largeNumbers =
        ["7", "99999999999999999999999", "100000000000000000000000"] := by
  obtain ⟨-, -, byValue, -, sorts⟩ := numerals_ordered_by_value
  have distinct : (largeNumbers.map id).Nodup := by decide
  have numerals : ∀ x ∈ largeNumbers, IsNumeral x := by decide
  have below : IsNumeral "99999999999999999999999" := numerals _ (by decide)
  have above : IsNumeral "100000000000000000000000" := numerals _ (by decide)
  obtain ⟨oneWay, ascends⟩ := sorts String id largeNumbers distinct
  refine ⟨below, above, ?_, distinct, numerals, ascends numerals, ?_⟩
  · rw [byValue _ _ below above]
    decide
  · exact ((oneWay _).1 ⟨by decide, by decide⟩).symm

end LightSync.Bridge
