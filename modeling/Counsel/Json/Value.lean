import Counsel.Dict
import Counsel.Json.Number

/-!
JSON values and their text.

The members of an object stand in ascending order of their keys, each key once; `Value.ofMembers`
makes an object so, a later member replacing an earlier one, and `Value.Canonical` says it of a
value and of all inside it. The text is compact: nothing between the tokens, a quote, a backslash
and control characters escaped, all else as it is.
-/

namespace Counsel.Json

/-- A JSON value. -/
inductive Value where
  | null
  | bool (value : Bool)
  | number (value : Number)
  | text (value : String)
  | array (items : List Value)
  | object (members : List (String × Value))
  deriving Repr

instance : Inhabited Value := ⟨.null⟩

/-- The object that a list of members makes. -/
def Value.ofMembers (members : List (String × Value)) : Value :=
  .object (members.foldl (fun done m => Dict.insertEntry m.1 m.2 done) [])

/-- The object with the entries of a dictionary. -/
def Value.ofDict (d : Dict Value) : Value := .object d.entries

/-- What an object has under a key. -/
def Value.get? (key : String) : Value → Option Value
  | .object members => members.lookup key
  | _ => none

mutual

/-- Every object of a value has its keys in strictly ascending order. -/
def Value.Canonical : Value → Prop
  | .array items => CanonicalItems items
  | .object members =>
      members.Pairwise (fun a b => a.1 < b.1) ∧ CanonicalMembers members
  | _ => True

/-- Every item is canonical. -/
def CanonicalItems : List Value → Prop
  | [] => True
  | v :: rest => v.Canonical ∧ CanonicalItems rest

/-- Every member's value is canonical. -/
def CanonicalMembers : List (String × Value) → Prop
  | [] => True
  | (_, v) :: rest => v.Canonical ∧ CanonicalMembers rest

end

/-! ### The text of a value -/

/-- A hexadecimal digit, small. -/
def hexDigit (n : Nat) : Char := Nat.digitChar (n % 16)

/-- A character as it is written inside a quoted text. -/
def escapeChar (c : Char) : List Char :=
  if c = '"' then ['\\', '"']
  else if c = '\\' then ['\\', '\\']
  else if c = '\n' then ['\\', 'n']
  else if c = '\r' then ['\\', 'r']
  else if c = '\t' then ['\\', 't']
  else if c.toNat = 8 then ['\\', 'b']
  else if c.toNat = 12 then ['\\', 'f']
  else if c.toNat < 32 then ['\\', 'u', '0', '0', hexDigit (c.toNat / 16), hexDigit c.toNat]
  else [c]

/-- A text in quotes. -/
def quoteChars (s : List Char) : List Char := '"' :: s.flatMap escapeChar ++ ['"']

/-- A text in quotes. -/
def quote (s : String) : List Char := quoteChars s.toList

mutual

/-- The characters of a value's text. -/
def Value.chars : Value → List Char
  | .null => ['n', 'u', 'l', 'l']
  | .bool true => ['t', 'r', 'u', 'e']
  | .bool false => ['f', 'a', 'l', 's', 'e']
  | .number n => n.text.toList
  | .text s => quote s
  | .array [] => ['[', ']']
  | .array (v :: rest) => '[' :: (v.chars ++ itemChars rest)
  | .object [] => ['{', '}']
  | .object ((k, v) :: rest) => '{' :: (quote k ++ ':' :: (v.chars ++ memberChars rest))

/-- The characters of the items that follow a first one, and of the closing bracket. -/
def itemChars : List Value → List Char
  | [] => [']']
  | v :: rest => ',' :: (v.chars ++ itemChars rest)

/-- The characters of the members that follow a first one, and of the closing brace. -/
def memberChars : List (String × Value) → List Char
  | [] => ['}']
  | (k, v) :: rest => ',' :: (quote k ++ ':' :: (v.chars ++ memberChars rest))

end

/-- The text of a value. -/
def Value.toText (v : Value) : String := .ofList v.chars

end Counsel.Json
