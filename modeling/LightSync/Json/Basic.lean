import LightSync.Decimal.Literal

/-!
# JSON values

A value keeps its members in the order and number in which they were written, so that a record can
refuse a member given twice. Where a value is used as such, `value?` brings it into its canonical
form: members ascending by key, the last of equal keys kept.

A reader that skips a member only checks its grammar. The grammar admits texts that stand for no
value (half a surrogate pair, a number beyond the doubles, nesting that is too deep); they are read
as `unreadable`, which every use refuses.

## Main definitions

- `Json`: values
- `Json.ofFloat`: a double, or null for what JSON cannot hold
- `Json.field?`: the member with a key
- `Json.value?`: the canonical form of a readable value
-/

namespace LightSync

/-- A JSON value as it was written. -/
inductive Json where
  | null
  | bool (value : Bool)
  | int (value : Int)
  | float (value : Float)
  | str (value : String)
  | arr (items : List Json)
  | obj (members : List (String × Json))
  /-- A text that follows the grammar and stands for no value. -/
  | unreadable
deriving Inhabited

namespace Json

/-- A double; null if it is infinite or no number. -/
def ofFloat (x : Float) : Json := if x.isFinite then .float x else .null

def ofNat (n : Nat) : Json := .int n

def ofNumber : Decimal.Number → Json
  | .int n => .int n
  | .float x => .float x

def ofOption (encode : α → Json) : Option α → Json
  | none => .null
  | some a => encode a

def strings (names : List String) : Json := .arr (names.map .str)

/-- The member with the given key in a list of members; the last one counts. -/
def lookup (key : String) : List (String × Json) → Option Json
  | [] => none
  | (k, v) :: rest => (lookup key rest).or (if k = key then some v else none)

/-- The member of an object with the given key. -/
def field? (key : String) : Json → Option Json
  | .obj members => lookup key members
  | _ => none

/-- Puts a member into members that ascend by key; a member with the same key is replaced. -/
def insertMember (key : String) (value : Json) : List (String × Json) → List (String × Json)
  | [] => [(key, value)]
  | (k, v) :: rest =>
    if key < k then (key, value) :: (k, v) :: rest
    else if key = k then (key, value) :: rest
    else (k, v) :: insertMember key value rest

mutual

/-- The canonical form: members ascending by key, the last of equal keys kept. A value with an
unreadable part has none. -/
def value? : Json → Option Json
  | .arr items => (values? items).map .arr
  | .obj members => (members? members []).map .obj
  | .unreadable => none
  | j => some j

/-- The canonical forms of the items of an array. -/
def values? : List Json → Option (List Json)
  | [] => some []
  | j :: rest => do
    let v ← value? j
    let vs ← values? rest
    return v :: vs

/-- The canonical members of an object, put one after the other into those `done`. -/
def members? : List (String × Json) → List (String × Json) → Option (List (String × Json))
  | [], done => some done
  | (k, j) :: rest, done => do
    let v ← value? j
    members? rest (insertMember k v done)

end

/-- The canonical form of a value, null if it has an unreadable part. -/
def canonical (j : Json) : Json := (value? j).getD .null

end Json
end LightSync
