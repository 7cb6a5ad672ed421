import LightSync.Text.Hex
import LightSync.Text.Parts

/-!
# Answers on the wire

An answer begins with a line that holds its version and status and with the lines of its fields, up
to an empty line; its body follows. Before the answer proper there may be others that only announce
it. Where the body ends is said by the fields, or else by the end of the connection.

## Main definitions

- `Head`, `readHead`: everything up to the empty line
- `Framing`, `Head.framing?`: where the body ends
- `readAnswer`: status and body of the answer proper
-/

namespace LightSync.Bridge.Message

/-- A field: its name in lower case and its value. -/
structure Field where
  name : List Char
  value : List Char
deriving DecidableEq, Repr

/-- What stands before a body. -/
structure Head where
  /-- Is the version the second one, 1.1? The first one, 1.0, knows no transfer codings. -/
  codings : Bool
  status : Nat
  fields : List Field
deriving DecidableEq, Repr

/-! ## Lines -/

/-- A line up to its end, and what follows. -/
def readLine : List UInt8 → Option (List Char × List UInt8)
  | [] => none
  | 0x0A :: rest => some ([], rest)
  | byte :: rest => (readLine rest).map fun (line, rest) => (Char.ofNat byte.toNat :: line, rest)

/-- Reading a line consumes at least its end. -/
theorem readLine_length_lt {bytes rest : List UInt8} {line : List Char}
    (h : readLine bytes = some (line, rest)) : rest.length < bytes.length := by
  induction bytes generalizing line with
  | nil => simp [readLine] at h
  | cons byte bytes ih =>
    rw [readLine.eq_def] at h
    split at h
    · contradiction
    · simp_all
    · rename_i byte' bytes' _ heq
      obtain ⟨rfl, rfl⟩ := List.cons.inj heq
      obtain ⟨⟨line', rest'⟩, hread, heq⟩ := Option.map_eq_some_iff.1 h
      obtain ⟨-, rfl⟩ := Prod.mk.inj heq
      exact Nat.lt_succ_of_lt (ih hread)

/-- A line without the carriage return at its end. -/
def dropReturn (line : List Char) : List Char :=
  if line.getLast? = some '\r' then line.dropLast else line

def isNameChar (c : Char) : Bool :=
  c.isAlphanum || ['!', '#', '$', '%', '&', '\x27', '*', '+', '-', '.', '^', '_', '\x60', '|',
    '~'].contains c

/-- May a value, or the words after a status, hold a character? -/
def isTextChar (c : Char) : Bool := c == '\t' || 0x20 ≤ c.toNat && c.toNat != 0x7F

def isBlank (c : Char) : Bool := c == ' ' || c == '\t'

def trim (text : List Char) : List Char :=
  ((text.dropWhile isBlank).reverse.dropWhile isBlank).reverse

/-- The version and the status in the first line. Words may follow after a blank. -/
def status? (line : List Char) : Option (Bool × Nat) :=
  match line with
  | 'H' :: 'T' :: 'T' :: 'P' :: '/' :: '1' :: '.' :: minor :: ' ' :: a :: b :: c :: words =>
    if (minor = '0' ∨ minor = '1') ∧ (words.isEmpty ∨ words.head? = some ' ') ∧
        words.all isTextChar then do
      let status ← Text.number? 10 [a, b, c]
      if 100 ≤ status then return (minor = '1', status) else none
    else none
  | _ => none

def field? (line : List Char) : Option Field :=
  let name := line.takeWhile (· != ':')
  match line.dropWhile (· != ':') with
  | [] => none
  | _ :: value =>
    if !name.isEmpty && name.all isNameChar && value.all isTextChar then
      some ⟨name.map Char.toLower, trim value⟩
    else none

/-- The fields up to an empty line, and what follows. -/
def readFields (bytes : List UInt8) : Option (List Field × List UInt8) :=
  match _h : readLine bytes with
  | none => none
  | some (line, rest) =>
    if (dropReturn line).isEmpty then some ([], rest)
    else do
      let field ← field? (dropReturn line)
      let (fields, rest) ← readFields rest
      return (field :: fields, rest)
termination_by bytes.length
decreasing_by exact readLine_length_lt _h

def maxFields : Nat := 100

/-- What is left after empty lines. -/
def skipEmptyLines : List UInt8 → List UInt8
  | 0x0A :: rest => skipEmptyLines rest
  | 0x0D :: 0x0A :: rest => skipEmptyLines rest
  | bytes => bytes

/-- A head, and what follows. -/
def readHead (bytes : List UInt8) : Option (Head × List UInt8) := do
  let (line, rest) ← readLine (skipEmptyLines bytes)
  let (codings, status) ← status? (dropReturn line)
  let (fields, rest) ← readFields rest
  if fields.length ≤ maxFields then return (⟨codings, status, fields⟩, rest) else none

/-! ## Bodies -/

/-- Where a body ends. -/
inductive Framing where
  | length (n : Nat)
  /-- After the last of its chunks, each of which tells its length. -/
  | chunks
  /-- With the connection. -/
  | close
deriving DecidableEq, Repr

namespace Head

def values (h : Head) (name : String) : List (List Char) :=
  (h.fields.filter (·.name = name.toList)).map (·.value)

/-- The parts of a value between its commas. -/
def listed (value : List Char) : List (List Char) := Text.parts (· == ',') value

/-- Does a status go without a body? -/
def isBodiless (status : Nat) : Bool := status == 101 || status == 204 || status == 304

/-- Is a status that of an answer which only announces another one? -/
def isInterim (status : Nat) : Bool := 100 ≤ status && status < 200 && status != 101

/-- Does the last transfer coding make chunks? -/
def isChunked (h : Head) : Bool :=
  match (h.values "transfer-encoding").getLast? with
  | some value => (trim ((listed value).getLastD [])).map Char.toLower = "chunked".toList
  | none => false

/-- The length that fields give: all of them must give the same. -/
def length? (h : Head) : Option Nat := do
  let lengths ← ((h.values "content-length").flatMap listed).mapM fun part =>
    if (trim part).isEmpty || !(trim part).all Char.isDigit then none
    else Text.number? 10 (trim part)
  let length ← lengths.head?
  if lengths.all (· = length) && length < Nat.pow 2 64 - 1 then return length else none

/-- Where the body ends, unless the fields contradict each other. -/
def framing? (h : Head) : Option Framing :=
  if isBodiless h.status then some (.length 0)
  else if !(h.values "transfer-encoding").isEmpty then
    if !h.codings then none
    else if h.isChunked then some .chunks
    else some .close
  else if (h.values "content-length").isEmpty then some .close
  else h.length?.map .length

end Head

/-- The length in the first line of a chunk, after which there may be remarks. -/
def chunkLength? (line : List Char) : Option Nat :=
  if line.getLast? = some '\r' then
    let isDigit (c : Char) : Bool := (Text.hexValue? c).isSome
    let digits := line.dropLast.takeWhile isDigit
    let remarks := (line.dropLast.dropWhile isDigit).dropWhile isBlank
    if !digits.isEmpty && (remarks.isEmpty || remarks.head? = some ';') &&
        !remarks.contains '\r' then
      (Text.number? 16 digits).filter (· < Nat.pow 2 64)
    else none
  else none

/-- The chunks up to the last one, which is empty and may have fields after it. -/
def readChunks (bytes : List UInt8) : Option (List UInt8) :=
  match _h : readLine bytes with
  | none => none
  | some (line, rest) =>
    match chunkLength? line with
    | none => none
    | some 0 => (readFields rest).map fun _ => []
    | some length =>
      match _hd : rest.drop length with
      | 0x0D :: 0x0A :: next => (readChunks next).map (rest.take length ++ ·)
      | _ => none
termination_by bytes.length
decreasing_by
  have hlt := readLine_length_lt _h
  have hdrop : (rest.drop length).length = next.length + 2 := by rw [_hd]; rfl
  rw [List.length_drop] at hdrop
  omega

/-- A body, if all of it is there. -/
def Framing.read (framing : Framing) (bytes : List UInt8) : Option (List UInt8) :=
  match framing with
  | length n => if n ≤ bytes.length then some (bytes.take n) else none
  | chunks => readChunks bytes
  | close => some bytes

/-- Does a head send the one who asks elsewhere? -/
def Head.isRedirection (h : Head) : Bool :=
  [301, 302, 303, 307, 308].contains h.status && !(h.values "location").isEmpty

/-- Status and body of the first of at most `limit` answers that is no mere announcement. One that
sends the asker elsewhere is none. -/
def readAnswer (bytes : List UInt8) : Nat → Option (Nat × List UInt8)
  | 0 => none
  | limit + 1 => do
    let (head, rest) ← readHead bytes
    if Head.isInterim head.status then readAnswer rest limit
    else if head.isRedirection then none
    else
      let body ← (← head.framing?).read rest
      return (head.status, body)

end LightSync.Bridge.Message
