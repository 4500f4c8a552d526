import Counsel.Json.Document

/-!
TOML values, and the documents they are decoded from.

A date or a time keeps its text. Decoded as a record it is one with a single reserved member, which
holds that text.
-/

namespace Counsel.Toml

/-- A TOML value; the keys of a table are pairwise different. -/
inductive Value where
  | text (value : String)
  | integer (value : Int)
  | float (value : Decimal.Binary64)
  | bool (value : Bool)
  | date (text : String)
  | array (items : List Value)
  | table (entries : List (String × Value))
  deriving Repr

instance : Inhabited Value := ⟨.table []⟩

/-- The member that holds the text of a date. -/
def dateKey : String := "$__toml_private_datetime"

mutual

/-- The document of a value. -/
def Value.toDoc : Value → Json.Doc
  | .text s => .text (some s)
  | .integer n => .number (some (.integer n))
  | .float x => .number (some (.binary x))
  | .bool b => .bool b
  | .date s => .object [(some dateKey, .text (some s))] true
  | .array items => .array (itemDocs items) true
  | .table entries => .object (entryDocs entries) true

/-- The documents of items. -/
def itemDocs : List Value → List Json.Doc
  | [] => []
  | v :: rest => v.toDoc :: itemDocs rest

/-- The documents of entries. -/
def entryDocs : List (String × Value) → List (Option String × Json.Doc)
  | [] => []
  | (k, v) :: rest => (some k, v.toDoc) :: entryDocs rest

end

end Counsel.Toml
