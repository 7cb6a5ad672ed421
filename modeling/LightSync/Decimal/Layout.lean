import LightSync.Decimal.Shortest

/-!
# Writing doubles

The same shortest digits are written in two layouts, which differ in the range of magnitudes that
is written positionally and in the sign of a positive exponent. Delays are written with one
decimal instead.

## Main definitions

- `Layout`: where positional notation ends and how an exponent is written
- `writeFloat`: the shortest digits of a double in a layout
- `writeTenths`: a double with one decimal
-/

namespace LightSync.Decimal

/-- How the digits of a double are laid out. -/
structure Layout where
  /-- Least power of ten of a first digit that is still written positionally. -/
  lowest : Int
  /-- Greatest power of ten of a first digit that is still written positionally. -/
  highest : Int
  /-- Is a positive exponent written with its sign? -/
  plus : Bool
  /-- Text of what is no finite number. -/
  nan : String
  infinity : String

/-- Numbers in JSON text: positional from `1e-5` up to below `1e16`, exponents with their sign.
JSON has no infinities, which are written as null. -/
def Layout.json : Layout := ⟨-5, 15, true, "null", "null"⟩

/-- Numbers in log lines: positional from `1e-4` up to below `1e16`, exponents without a plus. -/
def Layout.log : Layout := ⟨-4, 15, false, "NaN", "inf"⟩

/-- Digits written positionally, with at least one decimal. -/
def positional (d : Digits) : List Char :=
  if d.leading < 0 then
    '0' :: '.' :: (List.replicate (-d.leading - 1).toNat '0' ++ d.digits)
  else
    let count := d.leading.toNat + 1
    let whole := d.digits.take count
    let rest := d.digits.drop count
    whole ++ List.replicate (count - whole.length) '0' ++
      '.' :: (if rest.isEmpty then ['0'] else rest)

/-- Digits written with an exponent: a point only if there is a second digit. -/
def scientific (plus : Bool) (d : Digits) : List Char :=
  let mantissa := match d.digits with
    | first :: second :: rest => first :: '.' :: second :: rest
    | few => few
  let sign := if d.leading < 0 then ['-'] else if plus then ['+'] else []
  mantissa ++ 'e' :: (sign ++ Nat.toDigits 10 d.leading.natAbs)

def Layout.write (l : Layout) (d : Digits) : List Char :=
  if l.lowest ≤ d.leading ∧ d.leading ≤ l.highest then positional d else scientific l.plus d

/-- A double in a layout, with the fewest digits that read back. Zero keeps its sign. -/
def writeFloat (l : Layout) (x : Float) : String :=
  match Dyadic.ofFloat? x with
  | none => if x.isNaN then l.nan else if x < 0 then "-" ++ l.infinity else l.infinity
  | some d =>
    let sign := if d.negative then ['-'] else []
    let body := if d.mantissa = 0 then ['0', '.', '0'] else l.write (shortest d)
    String.ofList (sign ++ body)

/-- A finite double with one decimal; an exact half goes to the even tenth. -/
def writeTenths (x : Float) : String :=
  match Dyadic.ofFloat? x with
  | none => if x.isNaN then "NaN" else if x < 0 then "-inf" else "inf"
  | some d =>
    let tenths := d.round 10 .toEven
    let sign := if d.negative then "-" else ""
    s!"{sign}{tenths / 10}.{tenths % 10}"

end LightSync.Decimal
