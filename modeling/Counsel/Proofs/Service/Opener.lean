import Counsel.Flow.Builtin
import Counsel.Proofs.Flow.Step
import Counsel.Service.Respond

/-!
The opener of a scripted conversation.

The first words of a flow are found in two ways: the service looks them up at the start of the flow
(`Flow.firstPrompt`), and whoever walks the flow gets them from its first step. `Node.Opens` says
what both should be, with a case for a start that asks and one for a start that is already the end.

* `opener_is_first_step`: the reply to the request for an opener is what the first step says.
-/

namespace Counsel

/-- What a flow that starts at a node of a name says first, and in which step: it asks the prompt of
a question, or recommends something at its end. -/
inductive Node.Opens (id : String) : Node → FlowStep → String → Prop
  | asks {node : Node} {ask : Ask} (goesOn : ∀ recommendation, node ≠ .finish recommendation) :
      Opens id node (.ask id ask ask.id) ask.prompt
  | finishes {recommendation : Option String} {text : String} :
      Opens id (.finish recommendation) (.finish true text) text

namespace Flow

/-- No help changes what a question asks. -/
@[simp] theorem help_prompt (f : Flow) (id : String) (ask : Ask) :
    (f.help id ask).prompt = ask.prompt := by
  unfold help
  split <;> rfl

/-- Before anything is answered, the first of some questions is the first without an answer. -/
theorem head?_of_unanswered {asks : List Ask} {ask : Ask}
    (first : asks.find? (fun ask => !(Dict.empty : Answers).contains ask.id) = some ask) :
    asks.head? = some ask := by
  cases asks with
  | nil => cases first
  | cons question rest => exact first

/-- The first step of a flow says its first prompt. -/
theorem opens {f : Flow} {node : Node} (there : f.nodes.get? f.start = some node)
    (asks : ∀ passIf rules labels, node ≠ .composite [] passIf rules labels) :
    node.Opens f.start (f.advance f.start .empty) f.firstPrompt := by
  rw [advance_of_node there, firstPrompt, there]
  have silent : ∀ key, (Dict.empty : Answers).contains key ≠ true := fun _ => Bool.false_ne_true
  -- With no answer every node asks or ends, but for one that has no question to ask.
  have stuck {questions : List Ask} {passIf : String} {rules : List Rule} {labels : Dict String}
      (answered : ∀ ask ∈ questions, (Dict.empty : Answers).contains ask.id = true) :
      node ≠ .composite questions passIf rules labels := by
    cases questions with
    | nil => exact asks passIf rules labels
    | cons ask rest => exact absurd (answered ask List.mem_cons_self) (silent ask.id)
  have happens := node.happens f.start .empty
  generalize node.step f.start .empty = result at happens
  cases happens with
  | @asks questions passIf rules labels ask first =>
      have prompt : (questions.head?.map Ask.prompt).getD begin = (f.help f.start ask).prompt := by
        rw [head?_of_unanswered first, help_prompt, Option.map_some, Option.getD_some]
      show Node.Opens f.start _ (.ask f.start (f.help f.start ask) ask.id)
        ((questions.head?.map Ask.prompt).getD begin)
      rw [prompt, ← f.help_id f.start ask]
      exact .asks fun _ => Node.noConfusion
  | decides answered => exact absurd rfl (stuck answered)
  | undecided answered => exact absurd rfl (stuck answered)
  | unhandled answered => exact absurd rfl (stuck answered)
  | asksYesno => exact .asks fun _ => Node.noConfusion
  | branches answered => exact absurd answered (silent _)
  | asksText => exact .asks fun _ => Node.noConfusion
  | moves words => exact absurd (show Text.Blank "" by decide) words
  | finishes => exact .finishes

end Flow

namespace Service

open Dialogue (Request)

variable {r : Registry} {tool : Tool} {id : String} {f : Flow} {request : Request}

/-- A request for the opener of a tool is answered with the first prompt of the tool's flow. -/
theorem respond_of_flow (scripted : tool.profile.flowId = some id) (known : r.get? id = some f)
    (opener : request.isOpener = true) (names : Tool.parse? (toolName request) = some tool) :
    respond r request = ⟨f.firstPrompt, none⟩ := by
  have first : openerFor r tool = f.firstPrompt := by
    rw [openerFor, scripted, Option.bind_some, known]
  simp only [respond, opener, names, first, if_true, Dialogue.Reply.ofText]

/-- **The opener is what the first step of the flow says.** Whatever flow a registry has for a tool,
and however a request for the tool's opener names the tool: if the flow starts at a node that is not
without questions, the reply is the prompt of the question that the first step asks, or what is
recommended where the start is the end, and it brings no catalogue. -/
theorem opener_is_first_step {node : Node} (scripted : tool.profile.flowId = some id)
    (known : r.get? id = some f) (there : f.nodes.get? f.start = some node)
    (asks : ∀ passIf rules labels, node ≠ .composite [] passIf rules labels)
    (opener : request.isOpener = true) (names : Tool.parse? (toolName request) = some tool) :
    ∃ text, node.Opens f.start (r.advance (.first id)) text ∧
      respond r request = ⟨text, none⟩ := by
  have advanced : r.advance (.first id) = f.advance f.start .empty :=
    Registry.advance_of_flow known
  rw [advanced]
  exact ⟨f.firstPrompt, Flow.opens there asks, respond_of_flow scripted known opener names⟩

/-- A flow in the place of a built-in one, and a request with the older name of its tool. -/
theorem opener_is_first_step_of_own_flow :
    let node : Node := .composite [⟨"year", "scale_1_5", "In a year?", some "5 is the most."⟩]
      "max(year) <= 2" [⟨none, true, "year"⟩] (.ofList [("1", "none"), ("5", "huge")])
    let f : Flow := ⟨"how_fast", "impact", .ofList [("impact", node)]⟩
    let r : Registry := Builtin.registry.insert f
    let request : Request := ⟨"s1", "__init__", [], some " speed_checker", none⟩
    Tool.speedChecker.profile.flowId = some "how_fast" ∧ r.get? "how_fast" = some f ∧
      f.nodes.get? f.start = some node ∧
      (∀ passIf rules labels, node ≠ .composite [] passIf rules labels) ∧
      request.isOpener = true ∧ Tool.parse? (toolName request) = some .speedChecker ∧
      ∃ text, node.Opens f.start (r.advance (.first "how_fast")) text ∧
        respond r request = ⟨text, none⟩ := by
  intro node f r request
  have known : r.get? "how_fast" = some f := by decide
  have there : f.nodes.get? f.start = some node := by decide
  have asks : ∀ passIf rules labels, node ≠ .composite [] passIf rules labels := by simp [node]
  have opener : request.isOpener = true := by decide
  have names : Tool.parse? (toolName request) = some .speedChecker := by decide
  exact ⟨rfl, known, there, asks, opener, names,
    opener_is_first_step rfl known there asks opener names⟩

end Service
end Counsel
