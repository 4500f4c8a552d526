import Counsel.Axis
import Counsel.Tool

/-!
What a conversation belongs to: a tool, and perhaps an axis. In a normalised key a goal tool has no
axis, and an axis is not blank and has no blanks at its ends; `SessionKey.of` makes such keys.
-/

namespace Counsel

/-- The tool and axis a conversation belongs to. -/
structure SessionKey where
  tool : Tool
  axis : Option String
  deriving DecidableEq, Repr

namespace SessionKey

/-- The axis that a tool and a text for the axis select. -/
def normalAxis (tool : Tool) (axis : Option String) : Option String :=
  if tool.isGoal then none
  else (axis.map Text.trim).filter (· ≠ "")

/-- The normalised key of a tool and a text for the axis. -/
def of (tool : Tool) (axis : Option String) : SessionKey := ⟨tool, normalAxis tool axis⟩

/-- A key that normalising leaves as it is. -/
def Normal (key : SessionKey) : Prop := of key.tool key.axis = key

instance (key : SessionKey) : Decidable key.Normal := by
  unfold Normal; infer_instance

/-- A key as it is shown: the tool, and the axis in brackets. -/
def text (key : SessionKey) : String :=
  match key.axis with
  | some axis => key.tool.slug ++ "[" ++ axis ++ "]"
  | none => key.tool.slug

def decoder : Json.Decoder SessionKey :=
  Json.Fields.decode <| ((Json.Fields.none SessionKey.mk).and (.required "tool" Tool.decoder)).and
    (.nullable "axis" .text)

/-- A text or nothing. -/
def encodeAxis : Option String → Json.Value
  | some axis => .text axis
  | none => .null

def encode (key : SessionKey) : Json.Value :=
  .ofMembers [("tool", key.tool.encode), ("axis", encodeAxis key.axis)]

end SessionKey
end Counsel
