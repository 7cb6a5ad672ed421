import LightSync.Json.Basic
import LightSync.Text.Hex

/-!
# Reading JSON

The reader follows the JSON grammar strictly: one value, surrounded by nothing but blanks, tabs and
line ends; no comments, no trailing commas, no raw control characters in strings. It consumes the
text character by character and gives back what is left.

Containers nested deeper than `maxDepth` follow the grammar but cannot be used.

## Main definitions

- `readString`: a string after its opening quote
- `readNumber`: a number
- `readValue`: a value
- `Json.ofText?`, `Json.valueOfText?`: a whole text, as written and as a canonical value
- `Json.decodeText?`: a record from a text
-/

namespace LightSync.Json

/-- Deepest nesting of arrays and objects in a value that is used. -/
def maxDepth : Nat := 127

/-- A character that may stand between tokens. -/
def isBlank (c : Char) : Bool := c == ' ' || c == '\t' || c == '\n' || c == '\r'

def skipBlanks (text : List Char) : List Char := text.dropWhile isBlank

/-! ## Strings -/

/-- A piece of a string: a character, or half of a surrogate pair written as an escape. -/
inductive Piece where
  | char (c : Char)
  | half (code : Nat)

/-- The code written by four hexadecimal digits. -/
def hexCode? (a b c d : Char) : Option Nat := do
  let a ← Text.hexValue? a
  let b ← Text.hexValue? b
  let c ← Text.hexValue? c
  let d ← Text.hexValue? d
  return ((a * 16 + b) * 16 + c) * 16 + d

def pieceOfCode (code : Nat) : Piece :=
  if 0xD800 ≤ code ∧ code ≤ 0xDFFF then .half code else .char (Char.ofNat code)

/-- The character that a one-letter escape stands for. -/
def simpleEscape? : Char → Option Char
  | '"' => some '"'
  | '\\' => some '\\'
  | '/' => some '/'
  | 'b' => some '\x08'
  | 'f' => some '\x0c'
  | 'n' => some '\n'
  | 'r' => some '\r'
  | 't' => some '\t'
  | _ => none

/-- The pieces of a string whose opening quote has been read, and the text after its closing
quote. -/
def readPieces : List Char → Option (List Piece × List Char)
  | [] => none
  | '"' :: rest => some ([], rest)
  | '\\' :: 'u' :: a :: b :: c :: d :: rest => do
    let code ← hexCode? a b c d
    let (pieces, rest) ← readPieces rest
    return (pieceOfCode code :: pieces, rest)
  | '\\' :: e :: rest => do
    let c ← simpleEscape? e
    let (pieces, rest) ← readPieces rest
    return (.char c :: pieces, rest)
  | c :: rest =>
    if c.toNat < 0x20 ∨ c = '\\' then none
    else do
      let (pieces, rest) ← readPieces rest
      return (.char c :: pieces, rest)

/-- Joins the halves of surrogate pairs; none if a half stands alone. -/
def joinHalves : List Piece → Option (List Char)
  | [] => some []
  | .char c :: rest => (joinHalves rest).map (c :: ·)
  | .half high :: .half low :: rest =>
    if high < 0xDC00 ∧ 0xDC00 ≤ low then
      (joinHalves rest).map (Char.ofNat (0x10000 + (high - 0xD800) * 0x400 + (low - 0xDC00)) :: ·)
    else none
  | .half _ :: _ => none

/-- A string whose opening quote has been read: its text, if its escapes stand for one, and what
follows its closing quote. -/
def readString (text : List Char) : Option (Option String × List Char) := do
  let (pieces, rest) ← readPieces text
  return ((joinHalves pieces).map String.ofList, rest)

/-! ## Numbers -/

/-- The values of the digits at the start of a text, and what follows them. -/
def readDigits (text : List Char) : List Nat × List Char :=
  ((text.takeWhile Char.isDigit).map fun c => c.toNat - '0'.toNat, text.dropWhile Char.isDigit)

/-- The fraction of a number, if there is a point; a point needs a digit. -/
def readFraction : List Char → Option (Option (List Nat) × List Char)
  | '.' :: rest =>
    match readDigits rest with
    | ([], _) => none
    | (digits, rest) => some (some digits, rest)
  | text => some (none, text)

/-- The digits of an exponent after its sign. -/
def readExponentDigits (negative : Bool) (text : List Char) : Option (Option Int × List Char) :=
  match readDigits text with
  | ([], _) => none
  | (digits, rest) =>
    let size : Int := (digits.foldl (fun n d => n * 10 + d) 0 : Nat)
    some (some (if negative then -size else size), rest)

def readExponent : List Char → Option (Option Int × List Char)
  | e :: rest =>
    if e = 'e' ∨ e = 'E' then
      match rest with
      | '+' :: rest => readExponentDigits false rest
      | '-' :: rest => readExponentDigits true rest
      | rest => readExponentDigits false rest
    else some (none, e :: rest)
  | [] => some (none, [])

/-- The digits left of the point: a single zero, or digits that do not start with one. -/
def readWhole : List Char → Option (List Nat × List Char)
  | '0' :: rest => if (rest.head?.map Char.isDigit).getD false then none else some ([0], rest)
  | text =>
    match readDigits text with
    | ([], _) => none
    | (digits, rest) => some (digits, rest)

/-- A number after its sign. -/
def readNumber (negative : Bool) (text : List Char) : Option (Json × List Char) := do
  let (whole, rest) ← readWhole text
  let (fraction, rest) ← readFraction rest
  let (exponent, rest) ← readExponent rest
  let number := (Decimal.Literal.mk negative whole fraction exponent).number?
  return ((number.map ofNumber).getD .unreadable, rest)

/-! ## Values -/

/-- What follows a word that the text must start with. -/
def readWord (word text : List Char) : Option (List Char) :=
  if word.isPrefixOf text then some (text.drop word.length) else none

/-- A container at the given depth: unreadable if it lies too deep. -/
def atDepth (depth : Nat) (j : Json) : Json := if depth < maxDepth then j else .unreadable

/-- An object at the given depth; a key without text makes it unreadable. -/
def objectAt (depth : Nat) (members : List (Option String × Json)) : Json :=
  match members.mapM fun (k, v) => k.map fun k => (k, v) with
  | some members => atDepth depth (.obj members)
  | none => .unreadable

mutual

/-- A value inside `depth` containers, which may start with blanks, and the text after it. Each
call consumes a character, so as much `fuel` as there are characters is enough. -/
def readValue (fuel depth : Nat) (text : List Char) : Option (Json × List Char) :=
  match fuel with
  | 0 => none
  | fuel + 1 =>
    match skipBlanks text with
    | 'n' :: rest => (readWord ['u', 'l', 'l'] rest).map (.null, ·)
    | 't' :: rest => (readWord ['r', 'u', 'e'] rest).map (.bool true, ·)
    | 'f' :: rest => (readWord ['a', 'l', 's', 'e'] rest).map (.bool false, ·)
    | '"' :: rest => do
      let (s, rest) ← readString rest
      return ((s.map .str).getD .unreadable, rest)
    | '[' :: rest =>
      match skipBlanks rest with
      | ']' :: rest => some (atDepth depth (.arr []), rest)
      | rest => do
        let (items, rest) ← readItems fuel (depth + 1) rest
        return (atDepth depth (.arr items), rest)
    | '\x7b' :: rest =>
      match skipBlanks rest with
      | '\x7d' :: rest => some (atDepth depth (.obj []), rest)
      | rest => do
        let (members, rest) ← readMembers fuel (depth + 1) rest
        return (objectAt depth members, rest)
    | '-' :: rest => readNumber true rest
    | rest => readNumber false rest

/-- The items of an array up to its closing bracket. -/
def readItems (fuel depth : Nat) (text : List Char) : Option (List Json × List Char) :=
  match fuel with
  | 0 => none
  | fuel + 1 => do
    let (item, rest) ← readValue fuel depth text
    match skipBlanks rest with
    | ']' :: rest => return ([item], rest)
    | ',' :: rest =>
      let (items, rest) ← readItems fuel depth rest
      return (item :: items, rest)
    | _ => none

/-- The members of an object up to its closing brace. -/
def readMembers (fuel depth : Nat) (text : List Char) :
    Option (List (Option String × Json) × List Char) :=
  match fuel with
  | 0 => none
  | fuel + 1 =>
    match skipBlanks text with
    | '"' :: rest => do
      let (key, rest) ← readString rest
      match skipBlanks rest with
      | ':' :: rest =>
        let (value, rest) ← readValue fuel depth rest
        match skipBlanks rest with
        | '\x7d' :: rest => return ([(key, value)], rest)
        | ',' :: rest =>
          let (members, rest) ← readMembers fuel depth rest
          return ((key, value) :: members, rest)
        | _ => none
      | _ => none
    | _ => none

end

/-- The value that a text writes, members as written. -/
def ofText? (text : String) : Option Json := do
  let chars := text.toList
  let (j, rest) ← readValue (2 * chars.length + 1) 0 chars
  if (skipBlanks rest).isEmpty then some j else none

/-- The canonical value that a text writes. -/
def valueOfText? (text : String) : Option Json := (ofText? text).bind value?

/-- The record that a text writes. -/
def decodeText? (decode : Json → Option α) (text : String) : Option α := (ofText? text).bind decode

end LightSync.Json
