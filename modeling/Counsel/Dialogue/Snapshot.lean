import Counsel.Dialogue.Controller

/-!
Snapshots: everything a screen needs to show the dialogue.
-/

namespace Counsel.Dialogue

/-- What a list of saved sessions shows of each. -/
structure Summary where
  id : SessionId
  title : String
  tool : Tool
  axis : Option String
  createdAt : Instant
  messageCount : Nat
  deriving DecidableEq, Repr

/-- What a screen shows of the dialogue. -/
structure Snapshot where
  tool : Tool
  axis : Option String
  phase : Phase
  selection : Selection
  messages : List Message
  saved : List Summary
  input : String
  error : Option String
  axes : List Axis
  deriving DecidableEq, Repr

namespace Summary

def ofSession (s : SavedSession) : Summary :=
  ⟨s.id, s.title, s.tool, s.axis, s.createdAt, s.messages.length⟩

def encode (s : Summary) : Json.Value :=
  .ofMembers [("id", s.id.encode), ("title", .text s.title), ("tool", s.tool.encode),
    ("axis", SessionKey.encodeAxis s.axis),
    ("message_count", .number (.integer s.messageCount))]

end Summary

namespace Snapshot

/-- Whether something is waited for. -/
def isBusy (s : Snapshot) : Bool := s.phase.isBusy

def encode (s : Snapshot) : Json.Value :=
  .ofMembers [("tool", s.tool.encode), ("axis", SessionKey.encodeAxis s.axis),
    ("state", .text s.phase.name), ("selection", s.selection.encode),
    ("messages", .array (s.messages.map Message.encode)),
    ("saved", .array (s.saved.map Summary.encode)), ("input", .text s.input),
    ("error", Request.encodeText? s.error), ("axes", Axis.encodeAll s.axes)]

end Snapshot

/-- What a screen shows of the dialogue in a state. -/
def Controller.snapshot (c : Controller) : Snapshot where
  tool := c.navigation.tool
  axis := c.navigation.axis
  phase := c.phase
  selection := c.store.selection
  messages := c.store.activeMessages
  saved := c.store.saved.map Summary.ofSession
  input := c.input
  error := c.error
  axes := c.axes

end Counsel.Dialogue
