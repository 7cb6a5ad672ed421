/-!
# The order of bridge numbers

The bridge numbers lights and groups by decimal numerals. Ordering texts by their length in bytes
first and by their characters second orders numerals without leading zeros by value, and it is a
total order on all texts.

## Main definitions

- `bridgeOrder`: the comparison
- `sortByNumber`: a list in that order, items of equal numbers as they were
-/

namespace LightSync.Bridge

/-- Shorter texts first; texts of one length by their characters. -/
def bridgeOrder (a b : String) : Ordering :=
  (compare a.utf8ByteSize b.utf8ByteSize).then (compare a b)

/-- Puts an item in front of all those that do not come before it. -/
def insertByNumber (number : α → String) (x : α) : List α → List α
  | [] => [x]
  | y :: rest =>
    if (bridgeOrder (number x) (number y)).isLE then x :: y :: rest
    else y :: insertByNumber number x rest

@[irreducible] def sortByNumber (number : α → String) (items : List α) : List α :=
  items.foldr (insertByNumber number) []

end LightSync.Bridge
