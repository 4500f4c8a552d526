import Counsel.Toml.Scalar

/-!
TOML texts as a whole: arrays and inline tables, and the tables that lines and headers build up.

A text is a list of statements, each of which adds to a tree of tables. How a table came to be
decides what may still be added to it: one from a header is closed to dotted keys, one from a dotted
key is closed to headers, and one that was only passed through by a header may get its own.
-/

namespace Counsel.Toml

/-- How a table came to be. -/
inductive Origin where
  /-- By its own header, or as an item of an array of tables. -/
  | header
  /-- On the way to a table of a header. -/
  | passed
  /-- By a dotted key. -/
  | dotted
  deriving DecidableEq, Repr

/-- What a table under construction has under a key. -/
inductive Slot where
  | value (v : Value)
  | table (origin : Origin) (slots : List (String × Slot))
  | tables (items : List (List (String × Slot)))

instance : Inhabited Slot := ⟨.table .passed []⟩

/-- The slots of a table by their keys. -/
abbrev Slots := List (String × Slot)

/-- Puts a slot in the place of the one under its key. -/
def replaceSlot (key : String) (slot : Slot) (slots : Slots) : Slots :=
  slots.map fun s => if s.1 = key then (key, slot) else s

/-- Adds a value under a dotted key. -/
def putValue (key : String) (v : Value) : List String → Slots → Option Slots
  | [], slots => if (slots.lookup key).isSome then none else some (slots ++ [(key, .value v)])
  | part :: path, slots =>
      match slots.lookup part with
      | none => (putValue key v path []).map fun sub => slots ++ [(part, .table .dotted sub)]
      | some (.table .header _) => none
      | some (.table origin sub) =>
          if path.isEmpty ∧ origin ≠ .dotted then none
          else (putValue key v path sub).map fun sub => replaceSlot part (.table origin sub) slots
      | some (.tables items) =>
          if path.isEmpty then none
          else (putValue key v path (items.getLast?.getD [])).map fun sub =>
            replaceSlot part (.tables (items.dropLast ++ [sub])) slots
      | some (.value _) => none

/-- Changes the table that the parts of a header lead to: the last one where they name an array of
tables. -/
def changeAt (change : Slots → Option Slots) : List String → Slots → Option Slots
  | [], slots => change slots
  | part :: path, slots =>
      match slots.lookup part with
      | none => (changeAt change path []).map fun sub => slots ++ [(part, .table .passed sub)]
      | some (.table origin sub) =>
          (changeAt change path sub).map fun sub => replaceSlot part (.table origin sub) slots
      | some (.tables items) =>
          (changeAt change path (items.getLast?.getD [])).map fun sub =>
            replaceSlot part (.tables (items.dropLast ++ [sub])) slots
      | some (.value _) => none

/-- Opens the table of a header, which may not have been opened before. -/
def openTable (name : String) (slots : Slots) : Option Slots :=
  match slots.lookup name with
  | none => some (slots ++ [(name, .table .header [])])
  | some (.table .passed sub) => some (replaceSlot name (.table .header sub) slots)
  | _ => none

/-- Adds a table to an array of tables. -/
def openItem (name : String) (slots : Slots) : Option Slots :=
  match slots.lookup name with
  | none => some (slots ++ [(name, .tables [[]])])
  | some (.tables items) => some (replaceSlot name (.tables (items ++ [[]])) slots)
  | _ => none

mutual

/-- The value of a slot. -/
def Slot.toValue : Slot → Value
  | .value v => v
  | .table _ slots => .table (slotValues slots)
  | .tables items => .array (tableValues items)

/-- The values of slots. -/
def slotValues : List (String × Slot) → List (String × Value)
  | [] => []
  | (key, slot) :: rest => (key, slot.toValue) :: slotValues rest

/-- The values of tables. -/
def tableValues : List (List (String × Slot)) → List Value
  | [] => []
  | slots :: rest => .table (slotValues slots) :: tableValues rest

end

/-! ### Values -/

/-- The text without white space, line ends and comments at its start. -/
def skipGap : Nat → List Char → Option (List Char)
  | 0, s => some s
  | fuel + 1, s =>
      match skipSpace s with
      | '#' :: rest =>
          match skipComment ('#' :: rest) with
          | [] => some []
          | rest => (readNewline rest).bind (skipGap fuel)
      | s =>
          match readNewline s with
          | some rest => skipGap fuel rest
          | none => some s

/-- The table that the entries of an inline table make. -/
def inlineTable (entries : List ((List String × String) × Value)) : Option Value :=
  (entries.foldlM (fun slots e => putValue e.1.2 e.2 e.1.1 slots) []).map fun slots =>
    .table (slotValues slots)

mutual

/-- A value. `room` is how many arrays and tables may still be nested in it. -/
def readValue : Nat → Nat → Reader Value
  | 0, _, _ => none
  | fuel + 1, room, s =>
      match s with
      | [] => none
      | '"' :: _ => (readText s).map fun (text, rest) => (.text text, rest)
      | '\'' :: _ => (readText s).map fun (text, rest) => (.text text, rest)
      | '[' :: rest =>
          if room ≤ 1 then none
          else (readItems fuel (room - 1) rest).map fun (items, rest) => (.array items, rest)
      | '{' :: rest =>
          if room ≤ 1 then none
          else match skipSpace rest with
            | '}' :: rest => some (.table [], rest)
            | rest => do
                let (entries, rest) ← readEntries fuel (room - 1) rest
                pure (← inlineTable entries, rest)
      | 't' :: 'r' :: 'u' :: 'e' :: rest => some (.bool true, rest)
      | 'f' :: 'a' :: 'l' :: 's' :: 'e' :: rest => some (.bool false, rest)
      | s => readNumber s

/-- The items of an array after its bracket or after a comma. -/
def readItems : Nat → Nat → Reader (List Value)
  | 0, _, _ => none
  | fuel + 1, room, s => do
      match ← skipGap (s.length + 1) s with
      | ']' :: rest => pure ([], rest)
      | s =>
          let (item, rest) ← readValue fuel room s
          match ← skipGap (rest.length + 1) rest with
          | ']' :: rest => pure ([item], rest)
          | ',' :: rest => do
              let (items, rest) ← readItems fuel room rest
              pure (item :: items, rest)
          | _ => none

/-- The entries of an inline table, at least one. -/
def readEntries : Nat → Nat → Reader (List ((List String × String) × Value))
  | 0, _, _ => none
  | fuel + 1, room, s => do
      let (key, s) ← readKey s
      let s ← Instant.readMark '=' s
      let (v, s) ← readValue fuel room (skipSpace s)
      match skipSpace s with
      | '}' :: rest => pure ([(key, v)], rest)
      | ',' :: rest => do
          let (entries, rest) ← readEntries fuel room rest
          pure ((key, v) :: entries, rest)
      | _ => none

end

/-! ### Statements -/

/-- A line of a text: an entry, or the header of a table or of an item of an array of tables. -/
inductive Statement where
  | entry (path : List String) (key : String) (v : Value)
  | table (path : List String) (name : String)
  | item (path : List String) (name : String)

/-- A statement, and what follows its line. -/
def readStatement : Reader Statement := fun s =>
  match s with
  | '[' :: '[' :: rest => do
      let ((path, name), s) ← readKey rest
      let s ← (Instant.readMark ']' s).bind (Instant.readMark ']')
      pure (.item path name, ← readLineEnd s)
  | '[' :: rest => do
      let ((path, name), s) ← readKey rest
      let s ← Instant.readMark ']' s
      pure (.table path name, ← readLineEnd s)
  | s => do
      let ((path, key), s) ← readKey s
      let s ← Instant.readMark '=' s
      let s := skipSpace s
      let (v, s) ← readValue (2 * s.length + 2) nestingLimit s
      pure (.entry path key v, ← readLineEnd s)

/-- The statements of a text. -/
def readStatements : Nat → List Char → Option (List Statement)
  | 0, _ => none
  | fuel + 1, s => do
      match ← skipGap (s.length + 1) s with
      | [] => pure []
      | s =>
          let (statement, rest) ← readStatement s
          pure (statement :: (← readStatements fuel rest))

/-- Adds a statement to the tree; `here` is the table of the last header. -/
def Statement.apply (root : Slots) (here : List String) :
    Statement → Option (Slots × List String)
  | .entry path key v => (changeAt (putValue key v path) here root).map fun root => (root, here)
  | .table path name =>
      (changeAt (openTable name) path root).map fun root => (root, path ++ [name])
  | .item path name =>
      (changeAt (openItem name) path root).map fun root => (root, path ++ [name])

/-- The table that statements build up. -/
def assemble (statements : List Statement) : Option Value :=
  let step (state : Slots × List String) (statement : Statement) :=
    statement.apply state.1 state.2
  (statements.foldlM step ([], [])).map fun (root, _) => .table (slotValues root)

/-- The mark that a text in Unicode may start with. -/
def byteOrderMark : Char := Char.ofNat 0xfeff

/-- The table that a text denotes. -/
def parse? (s : String) : Option Value :=
  let s := match s.toList with
    | c :: rest => if c = byteOrderMark then rest else c :: rest
    | [] => []
  (readStatements (s.length + 1) s).bind assemble

/-- The value that a text denotes by a decoder. -/
def decode? {α : Type} (decode : Json.Doc → Except Json.Fault α) (s : String) : Option α :=
  (parse? s).bind fun v => (decode v.toDoc).toOption

end Counsel.Toml
