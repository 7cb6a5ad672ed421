import LightSync.Bridge.Address

/-!
# Request targets

The path of an address as it is written into a request: dot segments are resolved, and characters
that may not stand in a path are written as percent signs with their bytes. The query follows after
a question mark; the fragment is not sent.

## Main definitions

- `trimSlashes`: an address without slashes at its end
- `target?`: the target of a request for an address
-/

namespace LightSync.Bridge

/-- A text without the slashes at its end. -/
def trimSlashes (s : String) : String :=
  String.ofList (s.toList.reverse.dropWhile (· == '/')).reverse

/-- A byte as a percent sign and two digits. -/
def percentByte (byte : Nat) : List Char :=
  let digit (n : Nat) : Char := (Nat.digitChar n).toUpper
  ['%', digit (byte / 16), digit (byte % 16)]

/-- A character, written by its bytes if it is one of those or no printed ASCII character. -/
def percentChar (reserved : List Char) (c : Char) : List Char :=
  if c.toNat ≤ 0x20 || 0x7F ≤ c.toNat || reserved.contains c then
    (Text.Utf8.encodeChar c).flatMap percentByte
  else [c]

def reservedInPath : List Char := ['"', '#', '<', '>', '?', '\x60', '\x7b', '\x7d']

def reservedInQuery : List Char := ['"', '#', '<', '>', '\x27']

def reservedInFragment : List Char := ['"', '<', '>', '\x60']

/-- A segment of a path with its dots written plainly. -/
def dots (segment : List Char) : List Char :=
  match segment with
  | '%' :: '2' :: e :: rest => if e = 'e' ∨ e = 'E' then '.' :: dots rest else segment
  | '.' :: rest => '.' :: dots rest
  | _ => segment

/-- Is a segment the letter of a drive? -/
def isDrive : List Char → Bool
  | [letter, mark] => letter.isAlpha && (mark == ':' || mark == '|')
  | _ => false

/-- Goes back by one segment, the last of which comes first. Nothing leads back from a drive. -/
def parent : List (List Char) → List (List Char)
  | [] => []
  | segment :: before => if isDrive segment then segment :: before else before

/-- Resolves dot segments against the segments before them, the last of which comes first. -/
def resolve (before : List (List Char)) : List (List Char) → List (List Char)
  | [] => before.reverse
  | segment :: rest =>
    let onward (before : List (List Char)) := if rest.isEmpty then [] :: before else before
    if dots segment = ['.', '.'] then resolve (onward (parent before)) rest
    else if dots segment = ['.'] then resolve (onward before) rest
    else resolve (segment :: before) rest

/-- The path in a request target; it is never empty. -/
def targetPath (path : List Char) : List Char :=
  let segments := match Text.parts isSlash path with
    | [] :: segment :: segments => segment :: segments
    | segments => segments
  (resolve [] segments).flatMap fun segment => '/' :: segment.flatMap (percentChar reservedInPath)

/-- The target of a request for an address. -/
def Address.target (a : Address) : List Char :=
  targetPath a.path ++ match a.query with
    | none => []
    | some query => '?' :: query.flatMap (percentChar reservedInQuery)

/-- Longest address, with everything written out, that a request is made for. -/
def longestAddress : Nat := 65534

/-- The length of an address with everything written out. -/
def Address.length (a : Address) : Nat :=
  a.scheme.length + 3 + a.authority.length + a.target.length +
    match a.fragment with
    | none => 0
    | some fragment => 1 + (fragment.flatMap (percentChar reservedInFragment)).length

/-- The target of a request for an address; none if there is nobody to ask, or the address is too
long. -/
def target? (address : String) : Option String :=
  let a := Address.ofText address
  if a.isValid && a.length ≤ longestAddress then some (String.ofList a.target) else none

end LightSync.Bridge
