/-!
# Reading bytes as UTF-8

Bytes are read as UTF-8. Bytes that are no UTF-8 are replaced: each longest run that could have
begun a character becomes one replacement character.

## Main definitions

- `Pending`: a character that has begun
- `decodeLossy`: all bytes
-/

namespace LightSync.Text.Utf8

/-- The character that stands for what cannot be read. -/
def replacement : Char := '\ufffd'

/-- A character that has begun: its code so far, how many bytes it still needs, and the bounds of
the next one. -/
structure Pending where
  code : Nat
  missing : Nat
  low : Nat
  high : Nat

/-- What a byte between characters does: it is a character, begins one, or neither. -/
def start (byte : Nat) : List Char × Option Pending :=
  if byte < 0x80 then ([Char.ofNat byte], none)
  else if byte < 0xC2 then ([replacement], none)
  else if byte < 0xE0 then ([], some ⟨byte - 0xC0, 1, 0x80, 0xBF⟩)
  else if byte < 0xF0 then
    ([], some ⟨byte - 0xE0, 2, if byte = 0xE0 then 0xA0 else 0x80,
      if byte = 0xED then 0x9F else 0xBF⟩)
  else if byte < 0xF5 then
    ([], some ⟨byte - 0xF0, 3, if byte = 0xF0 then 0x90 else 0x80,
      if byte = 0xF4 then 0x8F else 0xBF⟩)
  else ([replacement], none)

/-- Reads the remaining bytes after a character may have begun. -/
def read : Option Pending → List UInt8 → List Char
  | none, [] => []
  | some _, [] => [replacement]
  | none, byte :: rest =>
    let (chars, pending) := start byte.toNat
    chars ++ read pending rest
  | some p, byte :: rest =>
    let b := byte.toNat
    if p.low ≤ b ∧ b ≤ p.high then
      let code := p.code * 64 + (b - 0x80)
      if p.missing = 1 then Char.ofNat code :: read none rest
      else read (some ⟨code, p.missing - 1, 0x80, 0xBF⟩) rest
    else
      let (chars, pending) := start b
      replacement :: chars ++ read pending rest

/-- The text that bytes write. -/
def decodeLossy (bytes : List UInt8) : String := String.ofList (read none bytes)

/-- The bytes of a character. -/
def encodeChar (c : Char) : List Nat :=
  let n := c.toNat
  if n < 0x80 then [n]
  else if n < 0x800 then [0xC0 + n / 64, 0x80 + n % 64]
  else if n < 0x10000 then [0xE0 + n / 4096, 0x80 + n / 64 % 64, 0x80 + n % 64]
  else [0xF0 + n / 262144, 0x80 + n / 4096 % 64, 0x80 + n / 64 % 64, 0x80 + n % 64]

end LightSync.Text.Utf8
