import LightSync.Text.Combining
import LightSync.Text.Hex
import LightSync.Text.Unprintable

/-!
# Quoted text

Names are shown in quotes, with everything escaped that a reader could not see: quotes and
backslashes, controls, characters without a printed form and characters that combine with the one
before. Sets of names are shown as a brace list of quoted names.

## Main definitions

- `isCombining`, `isUnprintable`, `isShown`: what a reader can see
- `escapeChar`, `quote`: one character, one text
- `braceList`: a list of names
-/

namespace LightSync.Text

/-- Does the code point lie in one of the ranges? -/
def inRanges (ranges : List (Nat × Nat)) (code : Nat) : Bool :=
  ranges.any fun (first, last) => first ≤ code && code ≤ last

/-- The two sound marks of halfwidth kana. They extend the character before them, yet take up a
place of their own and can be seen alone. -/
def halfwidthMarks : List (Nat × Nat) := [(0xFF9E, 0xFF9F)]

/-- The fillers of Hangul: letters by their category, and yet without a form. No other letter is
ignorable by default. -/
def hangulFillers : List (Nat × Nat) := [(0x115F, 0x1160), (0x3164, 0x3164), (0xFFA0, 0xFFA0)]

/-- Does the character combine with the one before it? -/
def isCombining (c : Char) : Bool :=
  inRanges combiningRanges c.toNat && !inRanges halfwidthMarks c.toNat

/-- Is the character beyond ASCII and without a printed form? -/
def isUnprintable (c : Char) : Bool :=
  inRanges unprintableRanges c.toNat || inRanges hangulFillers c.toNat

/-- Is the character shown as itself inside quotes? -/
def isShown (c : Char) : Bool :=
  if c.toNat < 0x80 then 0x20 ≤ c.toNat && c.toNat < 0x7F
  else !isCombining c && !isUnprintable c

/-- The text of one character inside quotes. -/
def escapeChar (c : Char) : List Char :=
  match c with
  | '\x00' => ['\\', '0']
  | '\t' => ['\\', 't']
  | '\n' => ['\\', 'n']
  | '\r' => ['\\', 'r']
  | '\\' => ['\\', '\\']
  | '"' => ['\\', '"']
  | c => if isShown c then [c] else '\\' :: 'u' :: '\x7b' :: (hexDigits c.toNat ++ ['\x7d'])

/-- A text in quotes. -/
def quote (s : String) : String :=
  String.ofList ('"' :: (s.toList.flatMap escapeChar ++ ['"']))

/-- Names in quotes between braces, in the order given. -/
def braceList (names : List String) : String :=
  "\x7b" ++ ", ".intercalate (names.map quote) ++ "\x7d"

end LightSync.Text
