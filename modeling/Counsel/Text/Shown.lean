import Counsel.Text.Blank

/-!
Texts as notes show them: in quotes, with escapes for what cannot be seen.
-/

namespace Counsel.Text

/-- Whether a character has no look of its own: controls, blanks other than the space, marks of
format, characters that join the one before, and those for private use. -/
def isUnseen (c : Char) : Bool :=
  let n := c.toNat
  n < 0x20 || (0x7f ≤ n && n < 0xa0) || (isBlank c && c ≠ ' ') || n = 0xad ||
  (0x300 ≤ n && n ≤ 0x36f) || (0x483 ≤ n && n ≤ 0x489) || (0x600 ≤ n && n ≤ 0x605) ||
  n = 0x61c || (0x200b ≤ n && n ≤ 0x200f) || (0x202a ≤ n && n ≤ 0x202e) ||
  (0x2060 ≤ n && n ≤ 0x206f) || (0x20d0 ≤ n && n ≤ 0x20f0) || (0xe000 ≤ n && n ≤ 0xf8ff) ||
  (0xfe00 ≤ n && n ≤ 0xfe0f) || (0xfe20 ≤ n && n ≤ 0xfe2f) || n = 0xfeff ||
  (0xfff0 ≤ n && n ≤ 0xfffb) || (0xe0000 ≤ n)

/-- A character as it is shown in quotes. -/
def shownChar (c : Char) : List Char :=
  if c = '"' then ['\\', '"']
  else if c = '\\' then ['\\', '\\']
  else if c = '\n' then ['\\', 'n']
  else if c = '\r' then ['\\', 'r']
  else if c = '\t' then ['\\', 't']
  else if c.toNat = 0 then ['\\', '0']
  else if isUnseen c then '\\' :: 'u' :: '\x7b' :: (Nat.toDigits 16 c.toNat ++ ['\x7d'])
  else [c]

/-- A text as it is shown in quotes. -/
def shown (s : String) : String := .ofList ('"' :: s.toList.flatMap shownChar ++ ['"'])

/-- A text that may be missing, as it is shown. -/
def shownOption : Option String → String
  | some s => "Some(" ++ shown s ++ ")"
  | none => "None"

end Counsel.Text
