import Counsel.Query
import Counsel.Toml.Value

/-!
Quoted TOML texts: which of the four kinds of quotes a text gets, and how it is written in them.

The simplest quotes that need no escape win: `"…"`, then `'…'`, then three of the first, then three
of the second. A text for which none of them does is escaped. A text of several lines in three
quotes starts on a line of its own, and the line end before it does not belong to it.
-/

namespace Counsel.Toml

/-- The kinds of quotes. -/
inductive Quotes where
  | basic
  | literal
  | longBasic
  | longLiteral
  deriving DecidableEq, Repr

namespace Quotes

def delimiter : Quotes → List Char
  | .basic => ['"']
  | .literal => ['\'']
  | .longBasic => ['"', '"', '"']
  | .longLiteral => ['\'', '\'', '\'']

/-- Whether texts in these quotes may have several lines. -/
def isLong : Quotes → Bool
  | .longBasic => true
  | .longLiteral => true
  | _ => false

/-- Whether there are escapes in these quotes. -/
def hasEscapes : Quotes → Bool
  | .basic => true
  | .longBasic => true
  | _ => false

end Quotes

/-- Whether a character can be written only by an escape. -/
def needsEscape (c : Char) : Bool :=
  (c.toNat < 0x20 && c ≠ '\t' && c ≠ '\n') || c.toNat = 0x7f

/-- The length of the longest run of a character; `run` is the one in progress. -/
def longestRun (mark : Char) (run : Nat) : List Char → Nat
  | [] => run
  | c :: rest =>
      if c = mark then longestRun mark (run + 1) rest else max run (longestRun mark 0 rest)

/-- The quotes a text is written in. -/
def quotesFor (s : List Char) : Quotes :=
  let escape := s.any needsEscape
  let backslash := s.contains '\\'
  let newline := s.contains '\n'
  let quotes := longestRun '"' 0 s
  let apostrophes := longestRun '\'' 0 s
  if !escape && !backslash && !newline && quotes = 0 then .basic
  else if !escape && !newline && apostrophes = 0 then .literal
  else if !escape && !backslash && quotes ≤ 2 then .longBasic
  else if !escape && apostrophes ≤ 2 then .longLiteral
  else if newline then .longBasic
  else .basic

/-- A hexadecimal digit, as a capital where it is a letter. -/
def escapeDigit (n : Nat) : Char := Query.capitalHexDigit n

/-- A character as it is escaped; a quote and a line end are left to where they stand. -/
def escapeChar (c : Char) : List Char :=
  if c.toNat = 0x8 then ['\\', 'b']
  else if c = '\t' then ['\\', 't']
  else if c.toNat = 0xc then ['\\', 'f']
  else if c = '\r' then ['\\', 'r']
  else if c = '\\' then ['\\', '\\']
  else if needsEscape c then ['\\', 'u', '0', '0', escapeDigit (c.toNat / 16), escapeDigit c.toNat]
  else [c]

/-- A text with escapes. In long quotes line ends stay, and only every third quote of a run is
escaped; `run` counts the quotes in progress. -/
def escapeText (long : Bool) (run : Nat) : List Char → List Char
  | [] => []
  | c :: rest =>
      if c = '"' then
        if long ∧ run < 2 then '"' :: escapeText long (run + 1) rest
        else '\\' :: '"' :: escapeText long 0 rest
      else if c = '\n' ∧ !long then '\\' :: 'n' :: escapeText long 0 rest
      else escapeChar c ++ escapeText long 0 rest

/-- A text as it is written in given quotes. -/
def quoteIn (quotes : Quotes) (s : List Char) : List Char :=
  let start := if quotes.isLong && s.contains '\n' then ['\n'] else []
  let inner := if quotes.hasEscapes then escapeText quotes.isLong 0 s else s
  quotes.delimiter ++ start ++ inner ++ quotes.delimiter

/-- A text as it is written. -/
def quote (s : String) : String := .ofList (quoteIn (quotesFor s.toList) s.toList)

end Counsel.Toml
