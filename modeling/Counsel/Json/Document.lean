import Counsel.Json.Value

/-!
Documents: what a JSON text holds, read as far as it goes.

Reading a text never fails. It gives a `Doc`, a tree that keeps what a stricter reader may still
refuse: members in the order of the text with repeated keys, numerals beyond the range, texts with
half a surrogate pair, and the place where the text stops being JSON. So a decoder that walks the
tree in the order of the text meets the first fault of the text first.

Main definitions: `Doc.read`, which also gives what follows the document, and `Doc.value?`, the
value of a document with nothing to refuse in it.
-/

namespace Counsel.Json

/-- What a JSON text holds, faults included. -/
inductive Doc where
  | null
  | bool (value : Bool)
  /-- A numeral; no number if it exceeds the range. -/
  | number (value : Option Number)
  /-- A quoted text; no text if it holds half a surrogate pair. -/
  | text (value : Option String)
  /-- The items up to the closing bracket, or as far as they could be read. -/
  | array (items : List Doc) (closed : Bool)
  /-- The members up to the closing brace, or as far as they could be read. -/
  | object (members : List (Option String × Doc)) (closed : Bool)
  /-- No JSON value starts here. -/
  | broken
  deriving Repr

instance : Inhabited Doc := ⟨.broken⟩

/-! ### Quoted texts -/

/-- A part of a quoted text: a character, or a UTF-16 unit given by its number. -/
inductive Piece where
  | char (c : Char)
  | unit (n : Nat)
  deriving DecidableEq, Repr

/-- The value of a hexadecimal digit. -/
def hexValue? (c : Char) : Option Nat :=
  if '0' ≤ c ∧ c ≤ '9' then some (c.toNat - 48)
  else if 'a' ≤ c ∧ c ≤ 'f' then some (c.toNat - 87)
  else if 'A' ≤ c ∧ c ≤ 'F' then some (c.toNat - 55)
  else none

/-- The number that four hexadecimal digits denote. -/
def hexUnit? (a b c d : Char) : Option Nat := do
  let a ← hexValue? a
  let b ← hexValue? b
  let c ← hexValue? c
  let d ← hexValue? d
  pure (((a * 16 + b) * 16 + c) * 16 + d)

/-- What a short escape stands for. -/
def shortEscape? : Char → Option Char
  | '"' => some '"'
  | '\\' => some '\\'
  | '/' => some '/'
  | 'b' => some '\x08'
  | 'f' => some '\x0c'
  | 'n' => some '\n'
  | 'r' => some '\r'
  | 't' => some '\t'
  | _ => none

/-- The pieces of a quoted text up to its closing quote, and what follows it; nothing where the
text does not close, holds a raw control character or an unknown escape. -/
def readPieces : List Char → Option (List Piece × List Char)
  | [] => none
  | '"' :: rest => some ([], rest)
  | '\\' :: 'u' :: a :: b :: c :: d :: rest => do
      let n ← hexUnit? a b c d
      let (pieces, rest) ← readPieces rest
      pure (.unit n :: pieces, rest)
  | '\\' :: c :: rest => do
      let c ← shortEscape? c
      let (pieces, rest) ← readPieces rest
      pure (.char c :: pieces, rest)
  | c :: rest =>
      if c.toNat < 32 ∨ c = '\\' then none
      else (readPieces rest).map fun (pieces, rest) => (.char c :: pieces, rest)

/-- The characters of the pieces, two units of a surrogate pair making one; nothing where half a
pair stands alone. -/
def joinPieces : List Piece → Option (List Char)
  | [] => some []
  | .char c :: rest => (joinPieces rest).map (c :: ·)
  | .unit n :: .unit m :: rest =>
      if 0xd800 ≤ n ∧ n < 0xdc00 then
        if 0xdc00 ≤ m ∧ m < 0xe000 then
          (joinPieces rest).map (Char.ofNat (0x10000 + (n - 0xd800) * 0x400 + (m - 0xdc00)) :: ·)
        else none
      else if 0xdc00 ≤ n ∧ n < 0xe000 then none
      else (joinPieces (.unit m :: rest)).map (Char.ofNat n :: ·)
  | .unit n :: rest =>
      if 0xd800 ≤ n ∧ n < 0xe000 then none else (joinPieces rest).map (Char.ofNat n :: ·)

/-! ### Numerals -/

/-- The decimal digits a text starts with. -/
def digitsOf (s : List Char) : List Char := s.takeWhile Char.isDigit

/-- The exponent a numeral may have: nothing at all, or what is wrong with it. -/
def readExponent (s : List Char) : Option (Option (Bool × List Char) × List Char) :=
  let digits (below : Bool) (rest : List Char) :=
    let ds := digitsOf rest
    if ds.isEmpty then none else some (some (below, ds), rest.drop ds.length)
  let signed (rest : List Char) := match rest with
    | '+' :: rest => digits false rest
    | '-' :: rest => digits true rest
    | rest => digits false rest
  match s with
  | 'e' :: rest => signed rest
  | 'E' :: rest => signed rest
  | rest => some (none, rest)

/-- The fraction a numeral may have. -/
def readFraction (s : List Char) : Option (Option (List Char) × List Char) :=
  match s with
  | '.' :: rest =>
      let ds := digitsOf rest
      if ds.isEmpty then none else some (some ds, rest.drop ds.length)
  | rest => some (none, rest)

/-- A numeral and what follows it. A leading zero stands alone before the point. -/
def readNumeral (s : List Char) : Option (Numeral × List Char) := do
  let (negative, s) := match s with
    | '-' :: rest => (true, rest)
    | rest => (false, rest)
  let whole := digitsOf s
  if whole.isEmpty ∨ (whole.head? = some '0' ∧ 1 < whole.length) then none
  else
    let (fraction, s) ← readFraction (s.drop whole.length)
    let (exponent, s) ← readExponent s
    pure (⟨negative, whole, fraction, exponent⟩, s)

/-! ### Documents -/

/-- The white space of JSON. -/
def isGap (c : Char) : Bool := c = ' ' || c = '\n' || c = '\t' || c = '\r'

/-- The text without the white space it starts with. -/
def skipGap (s : List Char) : List Char := s.dropWhile isGap

/-- A word such as `null` that stands for a document. -/
def readWord (word : List Char) (doc : Doc) (s : List Char) : Doc × Option (List Char) :=
  if word.isPrefixOf s then (doc, some (s.drop word.length)) else (.broken, none)

/-- A quoted text after its opening quote. -/
def readQuoted (s : List Char) : Option (Option String × List Char) :=
  (readPieces s).map fun (pieces, rest) => ((joinPieces pieces).map String.ofList, rest)

mutual

/-- The document a text starts with, and what follows it; nothing follows a document that could
not be read to its end. -/
def readDoc : Nat → List Char → Doc × Option (List Char)
  | 0, _ => (.broken, none)
  | fuel + 1, s =>
      match skipGap s with
      | [] => (.broken, none)
      | '"' :: rest =>
          match readQuoted rest with
          | some (text, rest) => (.text text, some rest)
          | none => (.broken, none)
      | '[' :: rest =>
          match skipGap rest with
          | ']' :: rest => (.array [] true, some rest)
          | _ =>
              let (items, rest) := readItems fuel rest
              (.array items rest.isSome, rest)
      | '{' :: rest =>
          match skipGap rest with
          | '}' :: rest => (.object [] true, some rest)
          | _ =>
              let (members, rest) := readMembers fuel rest
              (.object members rest.isSome, rest)
      | c :: rest =>
          if c = 'n' then readWord ['n', 'u', 'l', 'l'] .null (c :: rest)
          else if c = 't' then readWord ['t', 'r', 'u', 'e'] (.bool true) (c :: rest)
          else if c = 'f' then readWord ['f', 'a', 'l', 's', 'e'] (.bool false) (c :: rest)
          else match readNumeral (c :: rest) with
            | some (numeral, rest) => (.number numeral.value, some rest)
            | none => (.broken, none)

/-- The items up to a closing bracket, at least one. -/
def readItems : Nat → List Char → List Doc × Option (List Char)
  | 0, _ => ([], none)
  | fuel + 1, s =>
      match readDoc fuel s with
      | (item, none) => ([item], none)
      | (item, some rest) =>
          match skipGap rest with
          | ']' :: rest => ([item], some rest)
          | ',' :: rest =>
              let (items, rest) := readItems fuel rest
              (item :: items, rest)
          | _ => ([item], none)

/-- The members up to a closing brace, at least one. -/
def readMembers : Nat → List Char → List (Option String × Doc) × Option (List Char)
  | 0, _ => ([], none)
  | fuel + 1, s =>
      match skipGap s with
      | '"' :: rest =>
          match readQuoted rest with
          | none => ([], none)
          | some (key, rest) =>
              match skipGap rest with
              | ':' :: rest =>
                  match readDoc fuel rest with
                  | (value, none) => ([(key, value)], none)
                  | (value, some rest) =>
                      match skipGap rest with
                      | '}' :: rest => ([(key, value)], some rest)
                      | ',' :: rest =>
                          let (members, rest) := readMembers fuel rest
                          ((key, value) :: members, rest)
                      | _ => ([(key, value)], none)
              | _ => ([(key, .broken)], none)
      | _ => ([], none)

end

/-- The document a text starts with, and what follows it. Two steps of fuel for a character are
enough: every second call takes one off. -/
def Doc.read (s : List Char) : Doc × Option (List Char) := readDoc (2 * s.length + 2) s

/-! ### Values of documents -/

/-- Why a document is refused: its text is no JSON, or it has another shape than is asked for. -/
inductive Fault where
  | malformed
  | misshapen
  deriving DecidableEq, Repr

/-- How many arrays and objects may stand inside one another, and one more. -/
def nestingRoom : Nat := 128

mutual

/-- The value of a document; refused where its text is faulty or nested too deep. -/
def Doc.toValue (room : Nat) : Doc → Except Fault Value
  | .null => .ok .null
  | .bool b => .ok (.bool b)
  | .number (some n) => .ok (.number n)
  | .number none => .error .malformed
  | .text (some s) => .ok (.text s)
  | .text none => .error .malformed
  | .array items closed =>
      if room ≤ 1 then .error .malformed
      else do
        let values ← itemValues (room - 1) items
        if closed then pure (.array values) else .error .malformed
  | .object members closed =>
      if room ≤ 1 then .error .malformed
      else do
        let values ← memberValues (room - 1) members
        if closed then pure (.ofMembers values) else .error .malformed
  | .broken => .error .malformed

/-- The values of items. -/
def itemValues (room : Nat) : List Doc → Except Fault (List Value)
  | [] => .ok []
  | d :: rest => do
      let v ← d.toValue room
      let vs ← itemValues room rest
      pure (v :: vs)

/-- The values of members with their keys. -/
def memberValues (room : Nat) : List (Option String × Doc) → Except Fault (List (String × Value))
  | [] => .ok []
  | (key, d) :: rest =>
      match key with
      | none => .error .malformed
      | some key => do
          let v ← d.toValue room
          let vs ← memberValues room rest
          pure ((key, v) :: vs)

end

mutual

/-- Whether the text of a document could be read to its end. -/
def Doc.whole : Doc → Bool
  | .array items closed => closed && wholeItems items
  | .object members closed => closed && wholeMembers members
  | .broken => false
  | _ => true

/-- Whether every item could be read to its end. -/
def wholeItems : List Doc → Bool
  | [] => true
  | d :: rest => d.whole && wholeItems rest

/-- Whether every member could be read to its end. -/
def wholeMembers : List (Option String × Doc) → Bool
  | [] => true
  | (_, d) :: rest => d.whole && wholeMembers rest

end

mutual

/-- The document of a value. -/
def Doc.ofValue : Value → Doc
  | .null => .null
  | .bool b => .bool b
  | .number n => .number (some n)
  | .text s => .text (some s)
  | .array items => .array (docItems items) true
  | .object members => .object (docMembers members) true

/-- The documents of items. -/
def docItems : List Value → List Doc
  | [] => []
  | v :: rest => Doc.ofValue v :: docItems rest

/-- The documents of members. -/
def docMembers : List (String × Value) → List (Option String × Doc)
  | [] => []
  | (k, v) :: rest => (some k, Doc.ofValue v) :: docMembers rest

end

/-- Whether nothing but white space follows. -/
def endsThere : Option (List Char) → Bool
  | some rest => (skipGap rest).isEmpty
  | none => false

/-- The value that a whole text denotes. -/
def Value.parse (s : String) : Except Fault Value := do
  let (doc, rest) := Doc.read s.toList
  let value ← doc.toValue nestingRoom
  if endsThere rest then pure value else .error .malformed

end Counsel.Json
