import Counsel.Message
import Counsel.Session.Store

/-!
Requests to the dialogue service. A request carries the conversation so far, without the messages
that are not part of it. The opener of a conversation is asked for by a message of its own and no
history.
-/

namespace Counsel.Dialogue

/-- A turn of the conversation so far. -/
structure Turn where
  role : Role
  content : String
  deriving DecidableEq, Repr

/-- What the dialogue service is sent. -/
structure Request where
  sessionId : String
  message : String
  history : List Turn
  tool : Option String
  systemOverride : Option String
  deriving DecidableEq, Repr

namespace Turn

def decoder : Json.Decoder Turn :=
  Json.Fields.decode <| ((Json.Fields.none Turn.mk).and (.required "role" Role.decoder)).and
    (.required "content" .text)

def encode (t : Turn) : Json.Value :=
  .ofMembers [("role", t.role.encode), ("content", .text t.content)]

/-- A message as a turn. -/
def ofMessage (m : Message) : Turn := ⟨m.role, m.text⟩

end Turn

/-- The conversation in a list of messages, in their order. -/
def history (messages : List Message) : List Turn :=
  (messages.filter Message.isConversational).map Turn.ofMessage

/-- The history is what the user and the assistant said, each with who said it. -/
theorem history_eq (messages : List Message) :
    history messages =
      (messages.filter fun m => m.role = .user ∨ m.role = .assistant).map
        fun m => ⟨m.role, m.text⟩ := by
  have said : Message.isConversational =
      fun m : Message => decide (m.role = .user ∨ m.role = .assistant) := by
    funext m
    rw [Bool.eq_iff_iff, m.isConversational_iff, decide_eq_true_iff]
  rw [history, said]
  rfl

namespace Request

/-- The message that asks for an opener. -/
def openerMessage : String := "__init__"

/-- The request for the opener of a tool's conversation. -/
def opener (tool : Tool) (sessionId : String) : Request where
  sessionId := sessionId
  message := openerMessage
  history := []
  tool := some tool.slug
  systemOverride := none

/-- The request for the reply to a message of the user. -/
def turn (tool : Tool) (sessionId message : String) (prior : List Message) : Request where
  sessionId := sessionId
  message := message
  history := Dialogue.history prior
  tool := some tool.slug
  systemOverride := none

/-- Whether a request asks for an opener. -/
def isOpener (r : Request) : Bool := r.message = openerMessage && r.history.isEmpty

def decoder : Json.Decoder Request :=
  Json.Fields.decode <|
    (((((Json.Fields.none Request.mk).and (.required "session_id" .text)).and
      (.required "message" .text)).and (.withDefault "history" [] (.list Turn.decoder))).and
      (.withDefault "tool" none (.option .text))).and
      (.withDefault "system_override" none (.option .text))

/-- A text or nothing. -/
def encodeText? : Option String → Json.Value
  | some s => .text s
  | none => .null

def encode (r : Request) : Json.Value :=
  .ofMembers [("session_id", .text r.sessionId), ("message", .text r.message),
    ("history", .array (r.history.map Turn.encode)), ("tool", encodeText? r.tool),
    ("system_override", encodeText? r.systemOverride)]

end Request
end Counsel.Dialogue
