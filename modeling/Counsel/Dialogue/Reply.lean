import Counsel.Axis
import Counsel.Text.Blank

/-!
What the dialogue service answers: a reply, perhaps with a new catalogue of axes, or a failure.

A reply is read leniently (`Reply.ofBody`): whatever a body holds becomes the text of a reply.
-/

namespace Counsel.Dialogue

/-- A reply of the dialogue service. -/
structure Reply where
  text : String
  axes : Option (List Axis)
  deriving DecidableEq, Repr

/-- Why there is no reply. -/
inductive Failure where
  /-- The request could not be sent, or its answer not received. -/
  | transport (cause : String)
  /-- The service answered with another status than success. -/
  | status (code : Nat) (body : String)
  | unavailable (reason : String)
  deriving DecidableEq, Repr

/-- What is said of a failure. -/
def Failure.message : Failure → String
  | .transport cause => "dialogue request failed: " ++ cause
  | .status code body => "dialogue service returned " ++ toString code ++ ": " ++ body
  | .unavailable reason => reason

/-- What the service's answer comes to. -/
abbrev Outcome := Except Failure Reply

namespace Reply

/-- A reply without a catalogue. -/
def ofText (text : String) : Reply := ⟨text, none⟩

/-- A catalogue in a value, if it is one. -/
def axesOf? (v : Json.Value) : Option (List Axis) :=
  (Json.Decoder.list Axis.decoder (.ofValue v)).toOption

/-- The text of a value: itself if it is one, otherwise its JSON text. -/
def textOf : Json.Value → String
  | .text s => s
  | v => v.toText

/-- The reply in a value: the member `reply` of an object with its `axes`, or all of the value. -/
def ofValue (v : Json.Value) : Reply :=
  match v with
  | .object _ =>
      match v.get? "reply" with
      | some reply => ⟨textOf reply, (v.get? "axes").bind axesOf?⟩
      | none => ofText v.toText
  | v => ofText (textOf v)

/-- The reply in a body; one that is not JSON is the text itself, trimmed. -/
def ofBody (body : String) : Reply :=
  match Json.Value.parse body with
  | .ok v => ofValue v
  | .error _ => ofText (Text.trim body)

def decoder : Json.Decoder Reply :=
  Json.Fields.decode <| ((Json.Fields.none Reply.mk).and (.required "reply" .text)).and
    (.withDefault "axes" none (.option (.list Axis.decoder)))

def encode (r : Reply) : Json.Value :=
  .ofMembers (("reply", .text r.text) :: match r.axes with
    | some axes => [("axes", Axis.encodeAll axes)]
    | none => [])

end Reply
end Counsel.Dialogue
