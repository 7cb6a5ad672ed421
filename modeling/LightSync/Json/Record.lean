import LightSync.Json.Basic

/-!
# Decoding records

A record is written as an object, or as an array of its fields in the order in which they are
declared. In an object, members with unknown keys are skipped and a known key must not be repeated;
an array must not be longer than the record. What a missing field means is up to the field: it may
be required, optional, or have a default.

## Main definitions

- `Slot`, `slots?`: what a value holds at the place of each field of a record
- `Slot.required`, `Slot.optional`, `Slot.withDefault`: the three kinds of field
- `sparse`: an object without its empty members
-/

namespace LightSync.Json

/-! ## Single values -/

def bool? : Json → Option Bool
  | .bool b => some b
  | _ => none

def string? : Json → Option String
  | .str s => some s
  | _ => none

def int? (lo hi : Int) : Json → Option Int
  | .int n => if lo ≤ n ∧ n ≤ hi then some n else none
  | _ => none

def int64? : Json → Option Int := int? (-Int.pow 2 63) (Int.pow 2 63 - 1)

def nat64? (j : Json) : Option Nat := (int? 0 (Int.pow 2 64 - 1) j).map Int.toNat

def uint8? (j : Json) : Option UInt8 := (int? 0 255 j).map fun n => .ofNat n.toNat

def uint16? (j : Json) : Option UInt16 := (int? 0 65535 j).map fun n => .ofNat n.toNat

/-- The double nearest to an integer of at most 64 bits. -/
def floatOfInt (n : Int) : Float :=
  if n < 0 then -n.natAbs.toUInt64.toFloat else n.natAbs.toUInt64.toFloat

def float? : Json → Option Float
  | .float x => some x
  | .int n => some (floatOfInt n)
  | _ => none

def list? (decode : Json → Option α) : Json → Option (List α)
  | .arr items => items.mapM decode
  | _ => none

def strings? : Json → Option (List String) := list? string?

def nullable? (decode : Json → Option α) : Json → Option (Option α)
  | .null => some none
  | j => (decode j).map some

/-! ## Records -/

/-- What a value holds at the place of a field. -/
inductive Slot where
  | given (value : Json)
  /-- An object without a member of the field's name. -/
  | absent
  /-- An array that ends before the field. -/
  | short

/-- The place of a named field among members; a repeated name is refused. -/
def slot? (members : List (String × Json)) (name : String) : Option Slot :=
  match members.filter (·.1 = name) with
  | [] => some .absent
  | [(_, value)] => some (.given value)
  | _ => none

/-- The places of all fields of a record, in the order of their names. -/
def slots? (names : List String) : Json → Option (List Slot)
  | .obj members => names.mapM (slot? members)
  | .arr items =>
    if items.length ≤ names.length then
      some (items.map .given ++ List.replicate (names.length - items.length) .short)
    else none
  | _ => none

namespace Slot

/-- A field that must be there. -/
def required (decode : Json → Option α) : Slot → Option α
  | .given value => decode value
  | _ => none

/-- A field that may be null, and that an object may leave out. -/
def optional (decode : Json → Option α) : Slot → Option (Option α)
  | .given value => nullable? decode value
  | .absent => some none
  | .short => none

def withDefault (default : α) (decode : Json → Option α) : Slot → Option α
  | .given value => decode value
  | _ => some default

end Slot

/-- The content of a value with a single named variant. -/
def variant? : Json → Option (String × Json)
  | .obj [(name, content)] => some (name, content)
  | _ => none

/-- The name of a variant without content: a string, or an object with null under its only key. -/
def unitVariant? : Json → Option String
  | .str name => some name
  | j =>
    match variant? j with
    | some (name, .null) => some name
    | _ => none

/-- An object of the members that are there. -/
def sparse (members : List (String × Option Json)) : Json :=
  .obj (members.filterMap fun (key, value) => value.map (key, ·))

end LightSync.Json
