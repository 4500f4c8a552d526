import Counsel.Json.Document

/-!
Decoders: what a document has to look like to stand for a value of a type.

A record is described by its fields in order (`Fields`). It is read from an object, whose members
may come in any order and where unknown members are passed over, or from an array that gives the
fields one after the other. A known member may appear once.
-/

namespace Counsel.Json

/-- How a document is read as a value of a type. -/
abbrev Decoder (α : Type) := Doc → Except Fault α

/-- The fault of a document that is not of the kind asked for. A scalar is read to its end before
its kind is looked at, so a fault in its text comes first. -/
def Doc.refusal : Doc → Fault
  | .number none => .malformed
  | .text none => .malformed
  | .broken => .malformed
  | _ => .misshapen

namespace Decoder

/-- A text. -/
def text : Decoder String
  | .text (some s) => .ok s
  | d => .error d.refusal

/-- A truth value. -/
def bool : Decoder Bool
  | .bool b => .ok b
  | d => .error d.refusal

/-- An integer from zero up to below `bound`. -/
def natBelow (bound : Nat) : Decoder Nat
  | .number (some (.integer n)) =>
      if 0 ≤ n ∧ n < bound then .ok n.toNat else .error .misshapen
  | d => .error d.refusal

/-- Nothing, written as `null`. -/
def nothing : Decoder Unit
  | .null => .ok ()
  | d => .error d.refusal

/-- A value, or `null` for none. -/
def option {α : Type} (decode : Decoder α) : Decoder (Option α)
  | .null => .ok none
  | d => (decode d).map some

/-- Decodes items in order. -/
def items {α : Type} (decode : Decoder α) : List Doc → Except Fault (List α)
  | [] => .ok []
  | d :: rest => do
      let a ← decode d
      let as ← items decode rest
      pure (a :: as)

/-- A list. -/
def list {α : Type} (decode : Decoder α) : Decoder (List α)
  | .array docs closed => do
      let as ← items decode docs
      if closed then pure as else .error .malformed
  | d => .error d.refusal

/-- Decodes the values of members in order. -/
def members {α : Type} (decode : Decoder α) :
    List (Option String × Doc) → Except Fault (List (String × α))
  | [] => .ok []
  | (key, d) :: rest =>
      match key with
      | none => .error .malformed
      | some key => do
          let a ← decode d
          let as ← members decode rest
          pure ((key, a) :: as)

/-- A dictionary; a later member replaces an earlier one of its key. -/
def dict {α : Type} (decode : Decoder α) : Decoder (Dict α)
  | .object docs closed => do
      let as ← members decode docs
      if closed then pure (Dict.ofList as) else .error .malformed
  | d => .error d.refusal

/-- One of several names, given as a text or as an object with the name as its only key and a unit
for its value. -/
def named {α : Type} (unit : Decoder Unit) (parse : String → Option α) : Decoder α
  | .text (some s) => match parse s with
    | some a => .ok a
    | none => .error .misshapen
  | .object ((none, _) :: _) _ => .error .malformed
  | .object ((some key, d) :: rest) closed =>
      match parse key with
      | none => .error .misshapen
      | some a => do
          unit d
          if closed && rest.isEmpty then pure a else .error .malformed
  | _ => .error .malformed

/-- Any value, with `depth` arrays and objects around it. -/
def value (depth : Nat) : Decoder Value := fun d => d.toValue (nestingRoom - depth)

/-- First the whole value, then its shape; so a fault of the text anywhere inside comes first. -/
def whole {α : Type} (depth : Nat) (decode : Decoder α) : Decoder α := fun d => do
  let _ ← value depth d
  match decode d with
  | .ok a => pure a
  | .error _ => .error .misshapen

end Decoder

/-! ### Records -/

/-- A field as the reader of a record sees it. -/
structure Slot where
  name : String
  check : Doc → Except Fault Unit
  /-- Whether an array may end before this field. -/
  mayEnd : Bool

/-- The fields of a record, and how the record is made of the documents found for them. -/
structure Fields (α : Type) where
  slots : List Slot
  build : (String → Option Doc) → Except Fault α

namespace Fields

variable {α β : Type}

/-- No fields. -/
def none (a : α) : Fields α := ⟨[], fun _ => .ok a⟩

/-- Fields that make a function, and after them the fields that make its argument. -/
def and (f : Fields (α → β)) (a : Fields α) : Fields β where
  slots := f.slots ++ a.slots
  build found := do
    let f ← f.build found
    let a ← a.build found
    pure (f a)

/-- A field that has to be there. -/
def required (name : String) (decode : Decoder α) : Fields α where
  slots := [⟨name, fun d => (decode d).map fun _ => (), false⟩]
  build found := match found name with
    | some d => decode d
    | Option.none => .error .misshapen

/-- A field that is `default` where it is missing. -/
def withDefault (name : String) (default : α) (decode : Decoder α) : Fields α where
  slots := [⟨name, fun d => (decode d).map fun _ => (), true⟩]
  build found := match found name with
    | some d => decode d
    | Option.none => .ok default

/-- A field that may be `null`, and may be missing from an object but not from an array. -/
def nullable (name : String) (decode : Decoder α) : Fields (Option α) where
  slots := [⟨name, fun d => (Decoder.option decode d).map fun _ => (), false⟩]
  build found := match found name with
    | some d => Decoder.option decode d
    | Option.none => .ok Option.none

/-- Walks the members of an object: known ones are checked, unknown ones passed over. -/
def scanMembers (slots : List Slot) (found : List (String × Doc)) :
    List (Option String × Doc) → Except Fault (List (String × Doc))
  | [] => .ok found
  | (key, d) :: rest =>
      match key with
      | Option.none => .error .malformed
      | some key =>
          match slots.find? (·.name = key) with
          | Option.none =>
              if d.whole then scanMembers slots found rest else .error .malformed
          | some slot =>
              if (found.lookup key).isSome then .error .misshapen
              else do
                slot.check d
                scanMembers slots ((key, d) :: found) rest

/-- Walks the items of an array along the fields. -/
def scanItems (closed : Bool) : List Slot → List Doc → Except Fault (List (String × Doc))
  | [], [] => if closed then .ok [] else .error .malformed
  | [], _ :: _ => .error .malformed
  | slot :: slots, [] =>
      if closed then
        if slot.mayEnd then scanItems closed slots [] else .error .misshapen
      else .error .malformed
  | slot :: slots, d :: rest => do
      slot.check d
      let found ← scanItems closed slots rest
      pure ((slot.name, d) :: found)

/-- The decoder of a record that may be an object only. -/
def fromObject (fields : Fields α) : Decoder α
  | .object members closed => do
      let found ← scanMembers fields.slots [] members
      if closed then fields.build (fun name => found.lookup name) else .error .malformed
  | d => .error d.refusal

/-- The decoder of a record. -/
def decode (fields : Fields α) : Decoder α
  | .array items closed => do
      let found ← scanItems closed fields.slots items
      fields.build fun name => found.lookup name
  | d => fields.fromObject d

end Fields

/-! ### Texts -/

/-- The value that a whole text denotes by a decoder. -/
def Decoder.parse {α : Type} (decode : Decoder α) (s : String) : Except Fault α := do
  let (doc, rest) := Doc.read s.toList
  let a ← decode doc
  if endsThere rest then pure a else .error .malformed

/-- The value that the start of a text denotes; what follows it is not looked at. -/
def Decoder.parseStart {α : Type} (decode : Decoder α) (s : String) : Except Fault α :=
  decode (Doc.read s.toList).1

end Counsel.Json
