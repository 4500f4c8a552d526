import Counsel.Text.Blank
import Counsel.Time.Instant
import Counsel.Toml.Value

/-!
The parts of a TOML text that stay within a line, and quoted texts of several lines: keys, texts,
numbers, dates. Each reader gives what it has read and what follows, or nothing where the text does
not start with such a part.
-/

namespace Counsel.Toml

/-- Reads a part from the start of a text. -/
abbrev Reader (α : Type) := List Char → Option (α × List Char)

def isSpace (c : Char) : Bool := c = ' ' || c = '\t'

/-- The text without the spaces and tabs it starts with. -/
def skipSpace (s : List Char) : List Char := s.dropWhile isSpace

/-- What follows the end of a line. -/
def readNewline : List Char → Option (List Char)
  | '\n' :: rest => some rest
  | '\r' :: '\n' :: rest => some rest
  | _ => none

/-- Whether a character may stand in a comment or a quoted text: a tab, and no other control
character of ASCII. -/
def isInner (c : Char) : Bool :=
  c = '\t' || (0x20 ≤ c.toNat && c.toNat ≠ 0x7f)

/-- What follows a comment, which lasts up to the end of the line. -/
def skipComment (s : List Char) : List Char :=
  match s with
  | '#' :: rest => rest.dropWhile isInner
  | s => s

/-- What follows the rest of a line that holds nothing but spaces and a comment. -/
def readLineEnd (s : List Char) : Option (List Char) :=
  match skipComment (skipSpace s) with
  | [] => some []
  | s => readNewline s

/-! ### Texts -/

/-- The character that hexadecimal digits denote; none for a surrogate or beyond the last. -/
def scalar? (digits : List Char) : Option Char := do
  let n ← (digits.mapM Json.hexValue?).map fun ns => ns.foldl (fun n d => n * 16 + d) 0
  if h : n.isValidChar then pure (Char.ofNatAux n h) else none

/-- What a short escape stands for. -/
def shortEscape? : Char → Option Char
  | '"' => some '"'
  | '\\' => some '\\'
  | 'b' => some '\x08'
  | 'f' => some '\x0c'
  | 'n' => some '\n'
  | 'r' => some '\r'
  | 't' => some '\t'
  | _ => none

/-- A text between quotes, after the opening one. -/
def readBasic : Reader (List Char)
  | [] => none
  | '"' :: rest => some ([], rest)
  | '\\' :: 'u' :: a :: b :: c :: d :: rest => do
      let x ← scalar? [a, b, c, d]
      let (s, rest) ← readBasic rest
      pure (x :: s, rest)
  | '\\' :: 'U' :: a :: b :: c :: d :: e :: f :: g :: h :: rest => do
      let x ← scalar? [a, b, c, d, e, f, g, h]
      let (s, rest) ← readBasic rest
      pure (x :: s, rest)
  | '\\' :: c :: rest => do
      let x ← shortEscape? c
      let (s, rest) ← readBasic rest
      pure (x :: s, rest)
  | c :: rest =>
      if isInner c ∧ c ≠ '\\' then (readBasic rest).map fun (s, rest) => (c :: s, rest) else none

/-- A text between apostrophes, after the opening one. -/
def readLiteral : Reader (List Char)
  | [] => none
  | '\'' :: rest => some ([], rest)
  | c :: rest =>
      if isInner c then (readLiteral rest).map fun (s, rest) => (c :: s, rest) else none

/-- The end of a text of several lines, from the first of its closing quotes: up to two quotes more
than the three that close it belong to the text. -/
def readClosing (quote : Char) (s : List Char) : Option (List Char × List Char) :=
  let count := (s.takeWhile (· = quote)).length
  if count < 3 then none
  else
    let extra := min (count - 3) 2
    some (List.replicate extra quote, s.drop (extra + 3))

/-- The text without the spaces, tabs and line ends it starts with. -/
def skipLines : List Char → List Char
  | [] => []
  | '\r' :: '\n' :: rest => skipLines rest
  | c :: rest => if isSpace c ∨ c = '\n' then skipLines rest else c :: rest

/-- The text after a backslash at the end of a line, where white space is passed over. -/
def skipBreak (s : List Char) : Option (List Char) := (readNewline (skipSpace s)).map skipLines

/-- A text of several lines between three quotes, after the opening ones. -/
def readLongBasic : Nat → Reader (List Char)
  | 0, _ => none
  | fuel + 1, s =>
      let andThen (c : Char) (rest : List Char) :=
        (readLongBasic fuel rest).map fun (s, rest) => (c :: s, rest)
      match readClosing '"' s with
      | some closed => some closed
      | none =>
          match s with
          | [] => none
          | '\r' :: '\n' :: rest => andThen '\n' rest
          | '\\' :: 'u' :: a :: b :: c :: d :: rest => do andThen (← scalar? [a, b, c, d]) rest
          | '\\' :: 'U' :: a :: b :: c :: d :: e :: f :: g :: h :: rest => do
              andThen (← scalar? [a, b, c, d, e, f, g, h]) rest
          | '\\' :: c :: rest =>
              match shortEscape? c with
              | some x => andThen x rest
              | none =>
                  match skipBreak (c :: rest) with
                  | some after => readLongBasic fuel after
                  | none => none
          | c :: rest =>
              if c = '\n' ∨ (isInner c ∧ c ≠ '\\') then andThen c rest else none

/-- A text of several lines between three apostrophes, after the opening ones. -/
def readLongLiteral : Nat → Reader (List Char)
  | 0, _ => none
  | fuel + 1, s =>
      let andThen (c : Char) (rest : List Char) :=
        (readLongLiteral fuel rest).map fun (s, rest) => (c :: s, rest)
      match readClosing '\'' s with
      | some closed => some closed
      | none =>
          match s with
          | [] => none
          | '\r' :: '\n' :: rest => andThen '\n' rest
          | c :: rest => if c = '\n' ∨ isInner c then andThen c rest else none

/-- The text without the line end it may start with. -/
def dropFirstNewline (s : List Char) : List Char := (readNewline s).getD s

/-- A quoted text of any kind. -/
def readText : Reader String := fun s =>
  let read := match s with
    | '"' :: '"' :: '"' :: rest => readLongBasic (rest.length + 1) (dropFirstNewline rest)
    | '"' :: rest => readBasic rest
    | '\'' :: '\'' :: '\'' :: rest => readLongLiteral (rest.length + 1) (dropFirstNewline rest)
    | '\'' :: rest => readLiteral rest
    | _ => none
  read.map fun (s, rest) => (.ofList s, rest)

/-! ### Keys -/

/-- Whether a character may stand in a key without quotes. -/
def isBare (c : Char) : Bool := c.isAlphanum || c = '-' || c = '_'

/-- One part of a key. -/
def readSimpleKey : Reader String := fun s =>
  match s with
  | '"' :: rest => (readBasic rest).map fun (s, rest) => (.ofList s, rest)
  | '\'' :: rest => (readLiteral rest).map fun (s, rest) => (.ofList s, rest)
  | s =>
      let key := s.takeWhile isBare
      if key.isEmpty then none else some (.ofList key, s.drop key.length)

/-- The parts of a key, with dots between them. -/
def readKeyParts : Nat → Reader (List String)
  | 0, _ => none
  | fuel + 1, s => do
      let (part, s) ← readSimpleKey (skipSpace s)
      match skipSpace s with
      | '.' :: rest => do
          let (parts, s) ← readKeyParts fuel rest
          pure (part :: parts, s)
      | s => pure ([part], s)

/-- How deep tables and arrays may be nested. -/
def nestingLimit : Nat := 80

/-- A key: the names of the tables that lead to it, and its own. -/
def readKey : Reader (List String × String) := fun s => do
  let (parts, s) ← readKeyParts (s.length + 1) s
  let last ← parts.getLast?
  if parts.length < nestingLimit then pure ((parts.dropLast, last), s) else none

/-! ### Numbers -/

/-- Digits with single underscores between them: the digits, and what follows. `more` tells whether
digits have gone before. -/
def readSeparated (isDigit : Char → Bool) : Bool → Reader (List Char)
  | _, [] => some ([], [])
  | more, c :: rest =>
      if isDigit c then
        (readSeparated isDigit true rest).map fun (ds, rest) => (c :: ds, rest)
      else if c = '_' ∧ more then
        match readSeparated isDigit false rest with
        | some (d :: ds, rest) => some (d :: ds, rest)
        | _ => none
      else some ([], c :: rest)

/-- At least one digit, with underscores between. -/
def readDigits (isDigit : Char → Bool) : Reader (List Char) := fun s =>
  match readSeparated isDigit false s with
  | some (d :: ds, rest) => some (d :: ds, rest)
  | _ => none

/-- The sign of a number, if any: whether it is below zero. -/
def readSign : List Char → Bool × List Char
  | '+' :: rest => (false, rest)
  | '-' :: rest => (true, rest)
  | s => (false, s)

/-- A decimal number without a leading zero. -/
def readWhole : Reader (List Char) := fun s =>
  match s with
  | '0' :: rest => some (['0'], rest)
  | s => readDigits Char.isDigit s

/-- Whether an integer fits 64 bits. -/
def fits (n : Int) : Bool := -(Int.pow 2 63) ≤ n && n < Int.pow 2 63

/-- An integer to a base after its mark. -/
def readBased (base : Nat) (isDigit : Char → Bool) : Reader Value := fun s => do
  let (digits, rest) ← readDigits isDigit s
  let values ← digits.mapM Json.hexValue?
  let n : Int := Int.ofNat (values.foldl (fun n d => n * base + d) 0)
  if fits n then pure (.integer n, rest) else none

/-- An integer. -/
def readInteger : Reader Value := fun s =>
  match s with
  | '0' :: 'x' :: rest => readBased 16 (fun c => (Json.hexValue? c).isSome) rest
  | '0' :: 'o' :: rest => readBased 8 (fun c => '0' ≤ c && c ≤ '7') rest
  | '0' :: 'b' :: rest => readBased 2 (fun c => c = '0' || c = '1') rest
  | s => do
      let (negative, s) := readSign s
      let (digits, rest) ← readWhole s
      let n : Int := Decimal.digitsValue 0 digits
      let n := if negative then -n else n
      if fits n then pure (.integer n, rest) else none

/-- The fraction of a number after its point. -/
def readFraction : Reader (List Char) := fun s =>
  match s with
  | '.' :: rest => readDigits Char.isDigit rest
  | _ => none

/-- The exponent of a number after its mark. -/
def readExponent : Reader Int := fun s =>
  let afterMark := match s with
    | 'e' :: rest => some rest
    | 'E' :: rest => some rest
    | _ => none
  do
    let (negative, s) := readSign (← afterMark)
    let (digits, rest) ← readDigits Char.isDigit s
    let n : Int := Decimal.digitsValue 0 digits
    pure (if negative then -n else n, rest)

/-- The words for what is no finite number. -/
def readSpecial (negative : Bool) : Reader Decimal.Binary64 := fun s =>
  match s with
  | 'i' :: 'n' :: 'f' :: rest => some (.infinite negative, rest)
  | 'n' :: 'a' :: 'n' :: rest => some (.nan, rest)
  | _ => none

/-- A number with a fraction, an exponent or both, or a word for one that is not finite. -/
def readFloat : Reader Value := fun s =>
  let (negative, s) := readSign s
  match readSpecial negative s with
  | some (x, rest) => some (.float x, rest)
  | none => do
      let (whole, rest) ← readWhole s
      let fraction := readFraction rest
      let afterFraction := (fraction.map (·.2)).getD rest
      let exponent := readExponent afterFraction
      if fraction.isNone ∧ (exponent.isNone ∨ rest.head? = some '.') then none
      else
        let places := (fraction.map (·.1)).getD []
        let size := Decimal.digitsValue 0 (whole ++ places)
        let x := Decimal.ofScientific negative size
          ((exponent.map (·.1)).getD 0 - places.length)
        if x = .infinite false then none
        else pure (.float x, (exponent.map (·.2)).getD afterFraction)

/-! ### Dates and times -/

/-- A date in digits: its text, and what follows. -/
def readDate : Reader String := fun s => do
  let (year, s) ← Instant.readDigits 4 s
  let s ← Instant.readMark '-' s
  let (month, s) ← Instant.readDigits 2 s
  let s ← Instant.readMark '-' s
  let (day, s) ← Instant.readDigits 2 s
  if 1 ≤ month ∧ month ≤ 12 ∧ 1 ≤ day ∧ day ≤ Instant.daysOfMonth year month then
    pure (Instant.zeroPadded 4 year ++ "-" ++ Instant.zeroPadded 2 month ++ "-" ++
      Instant.zeroPadded 2 day, s)
  else none

/-- The nanoseconds of a fraction of a second as they are written, without zeros at the end. -/
def fractionText (nanoseconds : Nat) : String :=
  if nanoseconds = 0 then ""
  else "." ++ Text.dropTrailing '0' (Instant.zeroPadded 9 nanoseconds)

/-- A time of day in digits: its text, and what follows. -/
def readTime : Reader String := fun s => do
  let (hour, s) ← Instant.readDigits 2 s
  let s ← Instant.readMark ':' s
  let (minute, s) ← Instant.readDigits 2 s
  let s ← Instant.readMark ':' s
  let (second, s) ← Instant.readDigits 2 s
  let (fraction, s) ← Instant.readFraction s
  if hour < 24 ∧ minute < 60 ∧ second ≤ 60 then
    pure (Instant.zeroPadded 2 hour ++ ":" ++ Instant.zeroPadded 2 minute ++ ":" ++
      Instant.zeroPadded 2 second ++ fractionText fraction, s)
  else none

/-- The distance of a time from universal time: its text, and what follows. -/
def readOffset : Reader String := fun s =>
  let signed (sign : String) (rest : List Char) : Option (String × List Char) := do
    let (hours, rest) ← Instant.readDigits 2 rest
    let rest ← Instant.readMark ':' rest
    let (minutes, rest) ← Instant.readDigits 2 rest
    if hours < 24 ∧ minutes < 60 then
      pure (sign ++ Instant.zeroPadded 2 hours ++ ":" ++ Instant.zeroPadded 2 minutes, rest)
    else none
  match s with
  | 'Z' :: rest => some ("Z", rest)
  | 'z' :: rest => some ("Z", rest)
  | '+' :: rest => signed "+" rest
  | '-' :: rest => signed "-" rest
  | _ => none

/-- Whether a text starts as a time of day does. -/
def startsTime (s : List Char) : Bool :=
  (Instant.readDigits 2 s).any fun (_, rest) => rest.head? = some ':'

/-- Whether a text starts as a date does. -/
def startsDate (s : List Char) : Bool :=
  (Instant.readDigits 4 s).any fun (_, rest) => rest.head? = some '-'

/-- A date, a time, or a date with a time. -/
def readMoment : Reader Value := fun s =>
  if startsDate s then do
    let (date, rest) ← readDate s
    let afterDelimiter := match rest with
      | 'T' :: rest => some rest
      | 't' :: rest => some rest
      | ' ' :: rest => some rest
      | _ => none
    match afterDelimiter.filter startsTime with
    | none => pure (.date date, rest)
    | some rest =>
        let (time, rest) ← readTime rest
        match readOffset rest with
        | some (offset, rest) => pure (.date (date ++ "T" ++ time ++ offset), rest)
        | none => pure (.date (date ++ "T" ++ time), rest)
  else if startsTime s then do
    let (time, rest) ← readTime s
    pure (.date time, rest)
  else none

/-- A number, a date or a time. -/
def readNumber : Reader Value := fun s =>
  if startsDate s || startsTime s then readMoment s else (readFloat s).or (readInteger s)

end Counsel.Toml
