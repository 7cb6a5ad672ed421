import LightSync.Text.Hex
import LightSync.Text.Parts
import LightSync.Text.Quoted
import LightSync.Text.Utf8

/-!
# Addresses

An address is a scheme, a host, a path, and perhaps a query and a fragment. Tabs and line ends in it
count for nothing, and neither do blanks at its end. A backslash stands for a slash.

A host is a name, four numbers with dots between them, or an address of version 6 in brackets. A
name whose last part is a number is no name. What stands before an at sign is the user, whom nobody
asks for.

## Main definitions

- `Address`, `Address.ofText`: the parts of an address
- `isHost`, `Address.isValid`: whether a request can be sent to an address
-/

namespace LightSync.Bridge

def isSlash (c : Char) : Bool := c == '/' || c == '\\'

structure Address where
  scheme : List Char
  /-- The host and, after a colon, the port. -/
  authority : List Char
  path : List Char
  query : Option (List Char)
  fragment : Option (List Char)
deriving DecidableEq, Repr

namespace Address

/-- What follows the first character, if there is one. -/
def afterMark : List Char → Option (List Char)
  | [] => none
  | _ :: rest => some rest

def ofText (text : String) : Address :=
  let chars := text.toList.filter fun c => !(c == '\t' || c == '\n' || c == '\r')
  let chars := (chars.reverse.dropWhile fun c => c.toNat ≤ 0x20).reverse
  let rest := (chars.dropWhile (· != ':')).drop 1
  let rest := rest.dropWhile isSlash
  let ends (c : Char) : Bool := isSlash c || c == '?' || c == '#'
  let userAndHost := rest.takeWhile fun c => !ends c
  let rest := rest.dropWhile fun c => !ends c
  let sent := rest.takeWhile (· != '#')
  { scheme := chars.takeWhile (· != ':')
    authority := (Text.parts (· == '@') userAndHost).getLastD []
    path := sent.takeWhile (· != '?')
    query := afterMark (sent.dropWhile (· != '?'))
    fragment := afterMark (rest.dropWhile (· != '#')) }

end Address

/-! ## Hosts that are numbers -/

/-- A part of a dotted number: decimal, octal after a zero, hexadecimal after a zero and an x. -/
def dottedPart? : List Char → Option Nat
  | [] => none
  | '0' :: 'x' :: digits => Text.number? 16 digits
  | '0' :: 'X' :: digits => Text.number? 16 digits
  | '0' :: c :: digits => Text.number? 8 (c :: digits)
  | digits => Text.number? 10 digits

/-- The parts of a name between its dots. A dot at its end separates nothing. -/
def nameParts (name : List Char) : List (List Char) :=
  let parts := Text.parts (· == '.') name
  if parts.getLast? = some [] then parts.dropLast else parts

def endsInNumber (name : List Char) : Bool :=
  match (nameParts name).getLast? with
  | some part => (!part.isEmpty && part.all Char.isDigit) || (dottedPart? part).isSome
  | none => false

/-- Is a name a dotted number: at most four parts, each a byte, but for the last, which stands for
all bytes that are left? -/
def isDottedNumber (name : List Char) : Bool :=
  match (nameParts name).mapM dottedPart? with
  | some numbers =>
    numbers.length ≤ 4 && numbers.dropLast.all (· ≤ 255) &&
      numbers.getLastD 0 < Nat.pow 256 (5 - numbers.length)
  | none => false

/-- A byte as an address of version 6 writes it: decimal, without zeros before it. -/
def isDecimalByte (part : List Char) : Bool :=
  1 ≤ part.length && part.length ≤ 3 && (part.length = 1 || part.head? != some '0') &&
    match Text.number? 10 part with
    | some n => n ≤ 255
    | none => false

/-- How many groups of two bytes are written with colons between them. The last of them may be four
bytes with dots between them, which count as two groups. -/
def groupCount? (dotted : Bool) (text : List Char) : Option Nat :=
  if text.isEmpty then some 0
  else
    let parts := Text.parts (· == ':') text
    let isGroup (part : List Char) : Bool :=
      1 ≤ part.length && part.length ≤ 4 && part.all fun c => (Text.hexValue? c).isSome
    let bytes := Text.parts (· == '.') (parts.getLastD [])
    if parts.all isGroup then some parts.length
    else if dotted && parts.dropLast.all isGroup && bytes.length = 4 && bytes.all isDecimalByte then
      some (parts.length + 1)
    else none

/-- What stands before and after the first two colons in a row. -/
def cutAtColons : List Char → Option (List Char × List Char)
  | [] => none
  | ':' :: ':' :: rest => some ([], rest)
  | c :: rest => (cutAtColons rest).map fun (before, after) => (c :: before, after)

/-- Is a text an address of version 6: eight groups, or fewer and two colons for those left out? -/
def isVersion6 (text : List Char) : Bool :=
  match cutAtColons text with
  | none => groupCount? true text == some 8
  | some (before, after) =>
    match groupCount? false before, groupCount? true after with
    | some m, some n => m + n ≤ 7
    | _, _ => false

/-! ## Hosts -/

/-- The bytes of a text in which percent signs write bytes. -/
def percentDecode : List Char → List UInt8
  | [] => []
  | '%' :: a :: b :: rest =>
    match Text.hexValue? a, Text.hexValue? b with
    | some high, some low => .ofNat (high * 16 + low) :: percentDecode rest
    | _, _ => 0x25 :: percentDecode (a :: b :: rest)
  | c :: rest => (Text.Utf8.encodeChar c).map .ofNat ++ percentDecode rest
termination_by text => text.length

/-- Characters of ASCII that no name holds. The last four may stand in an address, but not in a
request. -/
def reservedInName : List Char :=
  ['%', '#', '/', ':', '<', '>', '?', '@', '[', '\\', ']', '^', '|', '"', '\x60', '\x7b', '\x7d']

/-- May a name hold a character? Beyond ASCII all that can be seen may stand in a name. -/
def isNameChar (c : Char) : Bool :=
  if c.toNat < 0x80 then 0x20 < c.toNat && c.toNat < 0x7F && !reservedInName.contains c
  else c != Text.Utf8.replacement && !Text.isUnprintable c

def isHost (text : List Char) : Bool :=
  match text with
  | [] => false
  | '[' :: rest => rest.getLast? == some ']' && isVersion6 rest.dropLast
  | _ =>
    let name := (Text.Utf8.decodeLossy (percentDecode text)).toList
    !name.isEmpty && name.all isNameChar && (!endsInNumber name || isDottedNumber name)

/-- A host and what follows it: the first colon that does not stand in brackets, and the port. -/
def splitPort (inBrackets : Bool) : List Char → List Char × List Char
  | [] => ([], [])
  | c :: rest =>
    if c == ':' && !inBrackets then ([], c :: rest)
    else
      let (host, port) := splitPort (c == '[' || c != ']' && inBrackets) rest
      (c :: host, port)

/-- Is a text a port, its colon included, or empty? -/
def isPort : List Char → Bool
  | [] => true
  | _ :: digits =>
    match Text.number? 10 digits with
    | some n => n ≤ 65535
    | none => false

/-- Does an address name a host that can be asked? -/
def Address.isValid (a : Address) : Bool :=
  let (host, port) := splitPort false a.authority
  isHost host && isPort port

end LightSync.Bridge
