import Counsel.Flow.Criterion

/-!
Walking a flow: what happens at a node, given the answers so far.
-/

namespace Counsel

/-- The text of an answer: nothing said is the empty text, and what is not a text its JSON text. -/
def answerText (answers : Answers) (key : String) : String :=
  match answers.get? key with
  | none => ""
  | some .null => ""
  | some (.text s) => s
  | some v => v.toText

/-- Whether an answer means yes. No letter outside ASCII has a small form in one of these words. -/
def isYes (answer : String) : Bool :=
  ["y", "yes", "true", "1"].contains (Text.lowerAscii (Text.trim answer))

/-- Whether a rule is the one to follow. -/
def Rule.applies (passed : Bool) (r : Rule) : Bool :=
  (r.when.isSome && passed) || (r.otherwise && !passed)

/-- The recommendation of an end that gives none. -/
def finished : String := "Finished."

/-- The prompt of a flow that starts with no question. -/
def begin : String := "Let's begin."

/-- What happens at a node, given the answers so far. A node with several questions asks the first
that has no answer yet, and then follows the first rule that applies. -/
def Node.step (id : String) (node : Node) (answers : Answers) : Except FlowError FlowStep :=
  match node with
  | .composite asks passIf rules _ =>
      match asks.find? fun ask => !answers.contains ask.id with
      | some ask => .ok (.ask id ask ask.id)
      | none => do
          let passed ← Criterion.evalText passIf answers
          match rules.find? (·.applies passed) with
          | some rule => .ok (.goto rule.goto)
          | none => .error (.unhandled id)
  | .yesno prompt onYes onNo =>
      if answers.contains id then
        .ok (.goto (if isYes (answerText answers id) then onYes else onNo))
      else .ok (.ask id ⟨id, "yesno", prompt, some "y/n"⟩ id)
  | .collect prompt next =>
      if Text.trim (answerText answers id) = "" then
        .ok (.ask id ⟨id, "text", prompt, none⟩ id)
      else .ok (.goto next)
  | .finish recommendation => .ok (.finish true (recommendation.getD finished))

namespace Flow

/-- The node of a name. -/
def node (f : Flow) (id : String) : Except FlowError Node :=
  match f.nodes.get? id with
  | some node => .ok node
  | none => .error (.unknownNode f.id id)

/-- What happens at the node of a name. -/
def next (f : Flow) (id : String) (answers : Answers) : Except FlowError FlowStep := do
  (← f.node id).step id answers

/-- The question a conversation on the flow starts with. -/
def firstPrompt (f : Flow) : String :=
  match f.nodes.get? f.start with
  | some (.composite asks _ _ _) => (asks.head?.map Ask.prompt).getD begin
  | some (.yesno prompt _ _) => prompt
  | some (.collect prompt _) => prompt
  | some (.finish recommendation) => recommendation.getD finished
  | none => begin

/-- The kind of question that is answered on a scale. -/
def scaleKind : String := "scale_1_5"

/-- The help that lists the labels of a node's scale, if it has any. -/
def scaleHelper (f : Flow) (id : String) : Option String :=
  match f.nodes.get? id with
  | some (.composite _ _ _ labels) =>
      if labels.isEmpty then none
      else some ("1–5 scale: " ++ "; ".intercalate (labels.entries.map fun e => e.1 ++ "=" ++ e.2))
  | _ => none

/-- A step with the help of the scale for a question that is answered on it. -/
def decorate (f : Flow) : FlowStep → FlowStep
  | .ask id ask awaiting =>
      .ask id (if ask.kind = scaleKind then { ask with helperText := f.scaleHelper id } else ask)
        awaiting
  | step => step

/-- What happens at a node, with the help of its scale; an error is a step of its own. -/
def advance (f : Flow) (id : String) (answers : Answers) : FlowStep :=
  match f.next id answers with
  | .ok step => f.decorate step
  | .error e => .error e.message

end Flow
end Counsel
