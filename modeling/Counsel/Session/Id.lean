import Counsel.Json.Shape

/-!
Identifiers of saved sessions: numbers of 128 bits, written as 32 hexadecimal digits in groups of
8, 4, 4, 4 and 12.
-/

namespace Counsel

/-- The identifier of a saved session. -/
structure SessionId where
  bits : BitVec 128
  deriving DecidableEq, Repr

namespace SessionId

/-- The hexadecimal digits of a number, the last `count` of them, most significant first. -/
def hexDigits : Nat → Nat → List Char
  | 0, _ => []
  | count + 1, n => hexDigits count (n / 16) ++ [Json.hexDigit n]

/-- How many digits the groups have. -/
def groups : List Nat := [8, 4, 4, 4, 12]

/-- The digits in groups with hyphens between them. -/
def hyphenate : List Nat → List Char → List Char
  | [], _ => []
  | [_], digits => digits
  | count :: rest, digits => digits.take count ++ '-' :: hyphenate rest (digits.drop count)

/-- The text of an identifier. -/
def text (id : SessionId) : String := .ofList (hyphenate groups (hexDigits 32 id.bits.toNat))

/-- The number that hexadecimal digits denote. -/
def hexNumber? (start : Nat) : List Char → Option Nat
  | [] => some start
  | c :: rest => (Json.hexValue? c).bind fun n => hexNumber? (start * 16 + n) rest

/-- The digits between hyphens at the right places. -/
def unhyphenate? : List Nat → List Char → Option (List Char)
  | [], _ => none
  | [count], s => if s.length = count then some s else none
  | count :: rest, s =>
      match s.drop count with
      | '-' :: tail => (unhyphenate? rest tail).map (s.take count ++ ·)
      | _ => none

/-- The identifier of 32 digits. -/
def ofDigits? (digits : List Char) : Option SessionId :=
  if digits.length = 32 then (hexNumber? 0 digits).map fun n => ⟨.ofNat 128 n⟩ else none

/-- What may stand before the hyphenated form. -/
def namespaces : List (List Char) := ["urn:uuid:".toList, "URN:UUID:".toList]

/-- The hyphenated form, bare, in braces or after the name of the namespace. -/
def bareForm (s : List Char) : List Char :=
  match s with
  | '{' :: rest => if rest.getLast? = some '}' then rest.dropLast else s
  | _ =>
      match namespaces.find? (·.isPrefixOf s) with
      | some name => s.drop name.length
      | none => s

/-- The identifier a text denotes: 32 digits, or the hyphenated form, which may stand in braces or
after `urn:uuid:`. -/
def parse? (s : String) : Option SessionId :=
  if s.toList.length = 32 then ofDigits? s.toList
  else (unhyphenate? groups (bareForm s.toList)).bind ofDigits?

def decoder : Json.Decoder SessionId := fun d => do
  match parse? (← Json.Decoder.text d) with
  | some id => pure id
  | none => .error .misshapen

def encode (id : SessionId) : Json.Value := .text id.text

end SessionId
end Counsel
