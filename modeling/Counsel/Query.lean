import Counsel.Json.Document
import Counsel.Text.Blank
import Counsel.Text.Utf8

/-!
Query strings: names and values joined by `=`, and such pairs by `&`, in the encoding of web forms.
A space is written as a plus sign; letters, digits and `*`, `-`, `.`, `_` stand for themselves; any
other byte is a percent sign with two hexadecimal digits.
-/

namespace Counsel.Query

/-- Whether a byte stands for itself. -/
def isPlain (b : UInt8) : Bool :=
  let c := Char.ofNat b.toNat
  c.isAlphanum || c = '*' || c = '-' || c = '.' || c = '_'

/-- A hexadecimal digit, as a capital where it is a letter. -/
def capitalHexDigit (n : Nat) : Char := (Nat.digitChar (n % 16)).toUpper

/-- A byte in the encoding of web forms. -/
def encodeByte (b : UInt8) : List Char :=
  if isPlain b then [Char.ofNat b.toNat]
  else if b = 0x20 then ['+']
  else ['%', capitalHexDigit (b.toNat / 16), capitalHexDigit b.toNat]

/-- A text in the encoding of web forms. -/
def encode (s : List Char) : List Char := (Text.Utf8.encode s).flatMap encodeByte

/-- The value of a hexadecimal digit given as a byte. -/
def hexByte? (b : UInt8) : Option Nat := Json.hexValue? (Char.ofNat b.toNat)

/-- The bytes behind an encoded text; a percent sign without two digits stands for itself. -/
def decodeBytes : List UInt8 → List UInt8
  | [] => []
  | 0x25 :: a :: b :: rest =>
      match hexByte? a, hexByte? b with
      | some high, some low => .ofNat (high * 16 + low) :: decodeBytes rest
      | _, _ => 0x25 :: decodeBytes (a :: b :: rest)
  | c :: rest => (if c = 0x2b then 0x20 else c) :: decodeBytes rest

/-- The text behind an encoded text. -/
def decode (s : List Char) : List Char :=
  Text.Utf8.decodeLossy (decodeBytes (Text.Utf8.encode s))

/-- The name and the value of a pair; a pair without `=` has the empty value. -/
def splitPair (s : List Char) : List Char × List Char :=
  (Text.splitOnce ['='] s).getD (s, [])

/-- The pairs of a query string, in order. Empty pieces between `&` are no pairs. -/
def parse (s : List Char) : List (String × String) :=
  ((Text.splitAtMark '&' s).filter (!·.isEmpty)).map fun piece =>
    let (name, value) := splitPair piece
    (.ofList (decode name), .ofList (decode value))

/-- A name and its value, encoded. -/
def pairChars (pair : String × String) : List Char :=
  encode pair.1.toList ++ '=' :: encode pair.2.toList

/-- The query string of pairs. -/
def print (pairs : List (String × String)) : List Char :=
  List.intercalate ['&'] (pairs.map pairChars)

end Counsel.Query
