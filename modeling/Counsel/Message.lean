import Counsel.Json.Shape

/-!
Messages of a conversation, and which of them belong to it: those of the user and of the assistant.
-/

namespace Counsel

/-- Who a message comes from. -/
inductive Role where
  | system
  | user
  | assistant
  deriving DecidableEq, Repr

/-- A message of a conversation. -/
structure Message where
  role : Role
  text : String
  deriving DecidableEq, Repr

namespace Role

def all : List Role := [.system, .user, .assistant]

def name : Role → String
  | .system => "system"
  | .user => "user"
  | .assistant => "assistant"

/-- The role of a name. -/
def ofName? (s : String) : Option Role := all.find? (·.name = s)

/-- Whether messages of this role are part of the conversation, and so of its history. -/
def isConversational : Role → Bool
  | .system => false
  | .user => true
  | .assistant => true

def decoder : Json.Decoder Role := .named .nothing ofName?

def encode (role : Role) : Json.Value := .text role.name

theorem ofName?_name (role : Role) : ofName? role.name = some role := by cases role <;> decide

end Role

namespace Message

def system (text : String) : Message := ⟨.system, text⟩

def user (text : String) : Message := ⟨.user, text⟩

def assistant (text : String) : Message := ⟨.assistant, text⟩

/-- Whether the message belongs to the conversation itself. -/
def isConversational (m : Message) : Bool := m.role.isConversational

theorem isConversational_iff (m : Message) :
    m.isConversational = true ↔ m.role = .user ∨ m.role = .assistant := by
  unfold isConversational
  cases m.role <;> decide

def decoder : Json.Decoder Message :=
  Json.Fields.decode <| ((Json.Fields.none Message.mk).and (.required "role" Role.decoder)).and
    (.required "text" .text)

def encode (m : Message) : Json.Value :=
  .ofMembers [("role", m.role.encode), ("text", .text m.text)]

end Message

/-- Whether a list of messages has a word of the user or of the assistant in it. -/
def hasContent (messages : List Message) : Bool := messages.any Message.isConversational

end Counsel
