import Counsel.Dialogue.Reply
import Counsel.Dialogue.Request
import Counsel.Flow.Registry

/-!
The service that stands in for an assistant: openers come from the tools and their flows, and any
other message is answered with a set phrase that counts the turns.
-/

namespace Counsel.Service

open Dialogue (Request Reply)

/-- What is asked of an assistant for a tool nobody knows. -/
def unknownToolInstruction : String := "Be helpful, concise, and ask one question at a time."

/-- The tool a request names; the goal tool if it names none. -/
def toolName (r : Request) : String := r.tool.getD Tool.smartGoal.slug

/-- What an assistant would be told before it answers a request. -/
def instruction (r : Request) : String :=
  r.systemOverride.getD <|
    ((Tool.parse? (toolName r)).map (·.profile.systemPrompt)).getD unknownToolInstruction

/-- The opener of a tool's conversation: the first question of its flow, if that is known. -/
def openerFor (flows : Registry) (tool : Tool) : String :=
  match tool.profile.flowId.bind flows.get? with
  | some f => f.firstPrompt
  | none => tool.profile.fallbackOpener

/-- The number of the turn that a request is, by how much went before it. -/
def turnNumber (r : Request) : Nat := r.history.length / 2 + 1

/-- The set phrase that answers a message. -/
def setPhrase (tool : Option Tool) (r : Request) : String :=
  "[" ++ (tool.map Tool.label).getD "Assistant" ++ " stub reply, turn " ++
    toString (turnNumber r) ++ "] You said: \"" ++ Text.trim r.message ++
    "\". What matters most to you here?"

/-- The reply to a request. -/
def respond (flows : Registry) (r : Request) : Reply :=
  let tool := Tool.parse? (toolName r)
  if r.isOpener then
    .ofText <| match tool with
      | some tool => openerFor flows tool
      | none => Profile.genericOpener
  else .ofText (setPhrase tool r)

/-- What is noted of a request. -/
def respondNotes (r : Request) : List Log.Note :=
  [⟨.debug, .service, "Dialogue turn for " ++ toolName r ++ " (session " ++ r.sessionId ++ "): " ++
    instruction r⟩]

end Counsel.Service
