import Counsel.Json.Shape

/-!
Axes: tags that narrow a conversation within a tool, the catalogue of those every workspace starts
with, and their colours.
-/

namespace Counsel

/-- A tag that narrows a conversation within a tool. -/
structure Axis where
  key : String
  label : String
  deriving DecidableEq, Repr

/-- A colour by its red, green and blue parts. -/
structure Colour where
  red : UInt8
  green : UInt8
  blue : UInt8
  deriving DecidableEq, Repr

namespace Colour

/-- A number below 256 in two hexadecimal digits. -/
def hexPair (n : UInt8) : String :=
  .ofList [Json.hexDigit (n.toNat / 16), Json.hexDigit n.toNat]

/-- The colour as `#rrggbb`. -/
def text (c : Colour) : String := "#" ++ hexPair c.red ++ hexPair c.green ++ hexPair c.blue

end Colour

namespace Axis

/-- The axes of the first catalogue with their colours. -/
def coloured : List (Axis × Colour) :=
  [(⟨"company_stage", "Company stage"⟩, ⟨0xef, 0x44, 0x44⟩),
    (⟨"problem_domain", "Problem domain"⟩, ⟨0xf5, 0x9e, 0x0b⟩),
    (⟨"work_model", "Work model"⟩, ⟨0x10, 0xb9, 0x81⟩),
    (⟨"team_type", "Team type"⟩, ⟨0x3b, 0x82, 0xf6⟩),
    (⟨"model_family", "Model family"⟩, ⟨0xa8, 0x55, 0xf7⟩)]

/-- The catalogue offered until the dialogue service sends its own. -/
def defaultCatalogue : List Axis := coloured.map (·.1)

/-- The colour of an axis the first catalogue does not have. -/
def neutralColour : Colour := ⟨0x6b, 0x72, 0x80⟩

/-- The colour of the axis with a key. -/
def colourOf (key : String) : Colour :=
  match coloured.find? (·.1.key = key) with
  | some (_, colour) => colour
  | none => neutralColour

/-- The decoder of an axis. -/
def decoder : Json.Decoder Axis :=
  Json.Fields.decode <| ((Json.Fields.none Axis.mk).and (.required "key" .text)).and
    (.required "label" .text)

def encode (axis : Axis) : Json.Value :=
  .ofMembers [("key", .text axis.key), ("label", .text axis.label)]

/-- A catalogue as a list. -/
def encodeAll (axes : List Axis) : Json.Value := .array (axes.map encode)

end Axis
end Counsel
