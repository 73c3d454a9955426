import Storyline.Text.DefaultIgnorable
import Storyline.Text.ExtendingMark
import Storyline.Text.Unprintable

/-!
# Quoted text

Text that is shown inside a larger display stands between double quotes. A backslash introduces the
escapes of the quote, of the backslash itself and of the usual controls. A character that cannot be
seen on its own, because it has no glyph, is left out of a display or extends the character before
it, is written by its code point in hexadecimal digits. A single quote needs no escape.
-/

namespace Storyline.Text

def hexDigits (n : Nat) : List Char := Nat.toDigits 16 n

/-- The ASCII graphic characters are visible; beyond them the tables decide. -/
def isVisible (c : Char) : Bool :=
  if c.toNat < 0x7f then 0x20 ≤ c.toNat
  else !(inRanges unprintable c || inRanges defaultIgnorable c || inRanges extendingMarks c)

def escaped : Char → List Char
  | '\x00' => ['\\', '0']
  | '\t' => ['\\', 't']
  | '\r' => ['\\', 'r']
  | '\n' => ['\\', 'n']
  | '\\' => ['\\', '\\']
  | '"' => ['\\', '"']
  | c => if isVisible c then [c] else ['\\', 'u', '\x7b'] ++ hexDigits c.toNat ++ ['\x7d']

def quoted (s : String) : String :=
  "\"" ++ String.ofList (s.toList.flatMap escaped) ++ "\""

end Storyline.Text
