import Counsel.Flow.Walk

/-!
What can happen at a node, and in a round of a walk.

`Node.Happens` has one case for each thing that can happen at a node, with all that holds where it
happens, and `Node.happens` is the one place where `Node.step` is taken apart. A step that a
registry gives is one of these, with the help of the scale (`Registry.ask_of_advance`,
`Registry.goto_of_advance`).

`Registry.IsWalk` are the walks as a relation, with one case for each way in which a walk goes on.

* `Registry.IsWalk.forall_mem`: what questions and jumps hand on holds of all requests of a walk.
* `Registry.walk_ends`: a walk goes on until an end or an error, or as long as there are replies.
-/

namespace Counsel

/-- What can happen at the node of a name, given the answers so far. -/
inductive Node.Happens (id : String) (answers : Answers) : Node → Except FlowError FlowStep → Prop
  /-- The first question without an answer is asked. -/
  | asks {asks : List Ask} {passIf : String} {rules : List Rule} {labels : Dict String} {ask : Ask}
      (first : asks.find? (fun ask => !answers.contains ask.id) = some ask) :
      Happens id answers (.composite asks passIf rules labels) (.ok (.ask id ask ask.id))
  | decides {asks : List Ask} {passIf : String} {rules : List Rule} {labels : Dict String}
      {passed : Bool} {rule : Rule} (answered : ∀ ask ∈ asks, answers.contains ask.id = true)
      (decided : Criterion.evalText passIf answers = .ok passed)
      (follows : rules.find? (·.applies passed) = some rule) :
      Happens id answers (.composite asks passIf rules labels) (.ok (.goto rule.goto))
  | undecided {asks : List Ask} {passIf : String} {rules : List Rule} {labels : Dict String}
      {e : FlowError} (answered : ∀ ask ∈ asks, answers.contains ask.id = true)
      (failed : Criterion.evalText passIf answers = .error e) :
      Happens id answers (.composite asks passIf rules labels) (.error e)
  | unhandled {asks : List Ask} {passIf : String} {rules : List Rule} {labels : Dict String}
      {passed : Bool} (answered : ∀ ask ∈ asks, answers.contains ask.id = true)
      (decided : Criterion.evalText passIf answers = .ok passed)
      (stuck : rules.find? (·.applies passed) = none) :
      Happens id answers (.composite asks passIf rules labels) (.error (.unhandled id))
  | asksYesno {prompt onYes onNo : String} (unanswered : answers.contains id = false) :
      Happens id answers (.yesno prompt onYes onNo)
        (.ok (.ask id ⟨id, "yesno", prompt, some "y/n"⟩ id))
  | branches {prompt onYes onNo target : String} (answered : answers.contains id = true)
      (one : target = onYes ∨ target = onNo) :
      Happens id answers (.yesno prompt onYes onNo) (.ok (.goto target))
  | asksText {prompt next : String} (blank : Text.Blank (answerText answers id)) :
      Happens id answers (.collect prompt next) (.ok (.ask id ⟨id, "text", prompt, none⟩ id))
  | moves {prompt next : String} (words : ¬ Text.Blank (answerText answers id)) :
      Happens id answers (.collect prompt next) (.ok (.goto next))
  | finishes {recommendation : Option String} :
      Happens id answers (.finish recommendation)
        (.ok (.finish true (recommendation.getD finished)))

/-- Whatever happens at a node is one of the cases of `Happens`. -/
theorem Node.happens (id : String) (node : Node) (answers : Answers) :
    node.Happens id answers (node.step id answers) := by
  cases node with
  | composite asks passIf rules labels =>
      cases first : asks.find? fun ask => !answers.contains ask.id with
      | some ask =>
          simp only [Node.step, first]
          exact .asks first
      | none =>
          have answered : ∀ ask ∈ asks, answers.contains ask.id = true := by simpa using first
          cases decided : Criterion.evalText passIf answers with
          | error e =>
              simp only [Node.step, first, decided]
              exact .undecided answered decided
          | ok passed =>
              cases follows : rules.find? (·.applies passed) with
              | some rule =>
                  simp only [Node.step, first, decided, follows, bind, Except.bind]
                  exact .decides answered decided follows
              | none =>
                  simp only [Node.step, first, decided, follows, bind, Except.bind]
                  exact .unhandled answered decided follows
  | yesno prompt onYes onNo =>
      by_cases answered : answers.contains id = true
      · simp only [Node.step, if_pos answered]
        refine .branches answered ?_
        split
        · exact Or.inl rfl
        · exact Or.inr rfl
      · simp only [Node.step, if_neg answered]
        exact .asksYesno (by simpa using answered)
  | collect prompt next =>
      by_cases blank : Text.trim (answerText answers id) = ""
      · simp only [Node.step, if_pos blank]
        exact .asksText (Text.trim_eq_empty.mp blank)
      · simp only [Node.step, if_neg blank]
        exact .moves (fun empty => blank (Text.trim_eq_empty.mpr empty))
  | finish recommendation => exact .finishes

namespace Round

variable {x : Round}

/-- The name under which a round asks, if it does. -/
def awaited (x : Round) : Option String :=
  match x.step with
  | .ask _ _ awaiting => some awaiting
  | _ => none

/-- The question that a round asks at a node, if it does. -/
def askedAt (id : String) (x : Round) : Option Ask :=
  match x.step with
  | .ask nodeId ask _ => if nodeId = id then some ask else none
  | _ => none

/-- The node that a round jumps to, if it does. -/
def jump (x : Round) : Option String :=
  match x.step with
  | .goto target => some target
  | _ => none

/-- Nothing follows from an end or an error. -/
theorem step_of_end (ends : x.next = none) :
    (∃ ended recommendation, x.step = .finish ended recommendation) ∨
      ∃ message, x.step = .error message := by
  unfold next at ends
  cases step : x.step with
  | ask nodeId ask awaiting => simp [step] at ends
  | goto target => simp [step] at ends
  | finish ended recommendation => exact Or.inl ⟨ended, recommendation, rfl⟩
  | error message => exact Or.inr ⟨message, rfl⟩

theorem awaited_of_end (ends : x.next = none) : x.awaited = none := by
  rcases step_of_end ends with ⟨_, _, step⟩ | ⟨_, step⟩ <;> simp [awaited, step]

theorem askedAt_of_end (ends : x.next = none) (id : String) : x.askedAt id = none := by
  rcases step_of_end ends with ⟨_, _, step⟩ | ⟨_, step⟩ <;> simp [askedAt, step]

theorem jump_of_end (ends : x.next = none) : x.jump = none := by
  rcases step_of_end ends with ⟨_, _, step⟩ | ⟨_, step⟩ <;> simp [jump, step]

/-- Every round that goes on is a question or a jump. -/
theorem length_goingOn (rounds : List Round) :
    (rounds.filter (·.next.isSome)).length =
      (rounds.filterMap awaited).length + (rounds.filterMap jump).length := by
  induction rounds with
  | nil => rfl
  | cons x rounds ih =>
      cases step : x.step with
      | ask nodeId question awaiting =>
          have on : x.next.isSome = true := by simp [next, step]
          have asks : x.awaited = some awaiting := by simp [awaited, step]
          have stays : x.jump = none := by simp [jump, step]
          rw [List.filter_cons, if_pos on, List.filterMap_cons_some asks,
            List.filterMap_cons_none stays, List.length_cons, List.length_cons, ih]
          omega
      | goto target =>
          have on : x.next.isSome = true := by simp [next, step]
          have jumps : x.jump = some target := by simp [jump, step]
          have silent : x.awaited = none := by simp [awaited, step]
          rw [List.filter_cons, if_pos on, List.filterMap_cons_some jumps,
            List.filterMap_cons_none silent, List.length_cons, List.length_cons, ih]
          omega
      | _ =>
          have ends : x.next = none := by simp [next, step]
          rw [List.filter_cons_of_neg (by simp [ends]), ih,
            List.filterMap_cons_none (awaited_of_end ends),
            List.filterMap_cons_none (jump_of_end ends)]

end Round

namespace Flow

/-- A question with the help of its node's scale. -/
def help (f : Flow) (id : String) (ask : Ask) : Ask :=
  if ask.kind = scaleKind then { ask with helperText := f.scaleHelper id } else ask

@[simp] theorem help_id (f : Flow) (id : String) (ask : Ask) : (f.help id ask).id = ask.id := by
  unfold help
  split <;> rfl

/-- The step that a flow gives for what happens at a node. -/
def tell (f : Flow) : Except FlowError FlowStep → FlowStep
  | .ok step => f.decorate step
  | .error e => .error e.message

variable {f : Flow} {id : String} {answers : Answers}

theorem advance_of_node {node : Node} (there : f.nodes.get? id = some node) :
    f.advance id answers = f.tell (node.step id answers) := by
  have next : f.next id answers = node.step id answers := by
    rw [Flow.next, Flow.node, there]
    rfl
  rw [advance, next]
  rfl

theorem advance_of_missing (missing : f.nodes.get? id = none) :
    f.advance id answers = .error (FlowError.unknownNode f.id id).message := by
  have next : f.next id answers = .error (.unknownNode f.id id) := by
    rw [Flow.next, Flow.node, missing]
    rfl
  rw [advance, next]

end Flow

namespace Registry

variable {r : Registry} {q : FlowRequest} {f : Flow} {step : FlowStep}

theorem advance_of_flow (known : r.get? q.flowId = some f) :
    r.advance q = f.advance (q.nodeId.getD f.start) q.answers := by
  rw [advance, known]

/-- A step that is no error tells what happens at a node. -/
theorem happens_of_advance (advanced : r.advance q = step)
    (fine : ∀ message, step ≠ .error message) :
    ∃ f node result, r.get? q.flowId = some f ∧ f.nodes.get? (q.nodeId.getD f.start) = some node ∧
      node.Happens (q.nodeId.getD f.start) q.answers result ∧ f.tell result = step := by
  cases known : r.get? q.flowId with
  | none =>
      rw [advance, known] at advanced
      exact absurd advanced.symm (fine _)
  | some f =>
      rw [advance_of_flow known] at advanced
      cases there : f.nodes.get? (q.nodeId.getD f.start) with
      | none =>
          rw [Flow.advance_of_missing there] at advanced
          exact absurd advanced.symm (fine _)
      | some node =>
          rw [Flow.advance_of_node there] at advanced
          exact ⟨f, node, _, rfl, there, node.happens _ _, advanced⟩

/-- A question that is asked is one of the node that was asked for, with the help of its scale. -/
theorem ask_of_advance {nodeId awaiting : String} {question : Ask}
    (advanced : r.advance q = .ask nodeId question awaiting) :
    ∃ f node ask, r.get? q.flowId = some f ∧ nodeId = q.nodeId.getD f.start ∧
      f.nodes.get? nodeId = some node ∧ question = f.help nodeId ask ∧
      node.Happens nodeId q.answers (.ok (.ask nodeId ask awaiting)) := by
  obtain ⟨f, node, result, known, there, happens, told⟩ :=
    happens_of_advance advanced fun _ => FlowStep.noConfusion
  cases happens with
  | asks first =>
      cases told
      exact ⟨f, _, _, known, rfl, there, rfl, .asks first⟩
  | asksYesno unanswered =>
      cases told
      exact ⟨f, _, _, known, rfl, there, rfl, .asksYesno unanswered⟩
  | asksText blank =>
      cases told
      exact ⟨f, _, _, known, rfl, there, rfl, .asksText blank⟩
  | _ => cases told

/-- A jump is one of the node that was asked for. -/
theorem goto_of_advance {target : String} (advanced : r.advance q = .goto target) :
    ∃ f node, r.get? q.flowId = some f ∧ f.nodes.get? (q.nodeId.getD f.start) = some node ∧
      node.Happens (q.nodeId.getD f.start) q.answers (.ok (.goto target)) := by
  obtain ⟨f, node, result, known, there, happens, told⟩ :=
    happens_of_advance advanced fun _ => FlowStep.noConfusion
  cases happens with
  | decides answered decided follows =>
      cases told
      exact ⟨f, _, known, there, .decides answered decided follows⟩
  | branches answered one =>
      cases told
      exact ⟨f, _, known, there, .branches answered one⟩
  | moves words =>
      cases told
      exact ⟨f, _, known, there, .moves words⟩
  | _ => cases told

/-! ### Rounds -/

variable {reply : Json.Value} {rounds : List Round}

section Ask

variable {nodeId awaiting : String} {question : Ask}

theorem next_of_ask (advanced : r.advance q = .ask nodeId question awaiting) :
    (r.round q reply).next = some (q.replied nodeId awaiting reply) := by
  simp [round, Round.next, advanced]

theorem awaited_of_ask (advanced : r.advance q = .ask nodeId question awaiting) :
    (r.round q reply).awaited = some awaiting := by
  simp [round, Round.awaited, advanced]

/-- What a round asks under is what its step says. -/
theorem ask_of_awaited {name : String} (asks : (r.round q reply).awaited = some name) :
    ∃ nodeId question, r.advance q = .ask nodeId question name := by
  cases advanced : r.advance q with
  | ask nodeId question awaiting =>
      rw [awaited_of_ask advanced] at asks
      exact ⟨nodeId, question, by rw [Option.some.inj asks]⟩
  | _ => simp [round, Round.awaited, advanced] at asks

theorem askedAt_of_ask (advanced : r.advance q = .ask nodeId question awaiting) (id : String) :
    (r.round q reply).askedAt id = if nodeId = id then some question else none := by
  simp [round, Round.askedAt, advanced]

theorem jump_of_ask (advanced : r.advance q = .ask nodeId question awaiting) :
    (r.round q reply).jump = none := by
  simp [round, Round.jump, advanced]

end Ask

section Goto

variable {target : String}

theorem next_of_goto (advanced : r.advance q = .goto target) :
    (r.round q reply).next = some (q.movedTo target) := by
  simp [round, Round.next, advanced]

theorem awaited_of_goto (advanced : r.advance q = .goto target) :
    (r.round q reply).awaited = none := by
  simp [round, Round.awaited, advanced]

theorem askedAt_of_goto (advanced : r.advance q = .goto target) (id : String) :
    (r.round q reply).askedAt id = none := by
  simp [round, Round.askedAt, advanced]

theorem jump_of_goto (advanced : r.advance q = .goto target) :
    (r.round q reply).jump = some target := by
  simp [round, Round.jump, advanced]

end Goto

/-! ### Walks -/

/-- The walks from a request on. One stops for want of a reply, comes to an end, or goes on after a
question or a jump. -/
inductive IsWalk (r : Registry) : FlowRequest → List Round → Prop
  | stopped {q : FlowRequest} : IsWalk r q []
  | ended {q : FlowRequest} {reply : Json.Value} (ends : (r.round q reply).next = none) :
      IsWalk r q [r.round q reply]
  | asked {q : FlowRequest} {reply : Json.Value} {nodeId awaiting : String} {question : Ask}
      {rounds : List Round} (step : r.advance q = .ask nodeId question awaiting)
      (on : IsWalk r (q.replied nodeId awaiting reply) rounds) :
      IsWalk r q (r.round q reply :: rounds)
  | jumped {q : FlowRequest} {reply : Json.Value} {target : String} {rounds : List Round}
      (step : r.advance q = .goto target) (on : IsWalk r (q.movedTo target) rounds) :
      IsWalk r q (r.round q reply :: rounds)

theorem isWalk_walk (r : Registry) (q : FlowRequest) (replies : List Json.Value) :
    r.IsWalk q (r.walk q replies) := by
  induction replies generalizing q with
  | nil => exact .stopped
  | cons reply replies ih =>
      rw [walk]
      cases advanced : r.advance q with
      | ask nodeId question awaiting =>
          rw [next_of_ask advanced]
          exact .asked advanced (ih _)
      | goto target =>
          rw [next_of_goto advanced]
          exact .jumped advanced (ih _)
      | _ =>
          have ends : (r.round q reply).next = none := by simp [round, Round.next, advanced]
          rw [ends]
          exact .ended ends

namespace IsWalk

/-- Every round of a walk is the one that its request begins. -/
theorem round_of_mem (walk : r.IsWalk q rounds) :
    ∀ x ∈ rounds, r.round x.request x.reply = x := by
  induction walk with
  | stopped => exact List.forall_mem_nil _
  | ended _ => exact List.forall_mem_singleton.mpr rfl
  | asked _ _ ih => exact List.forall_mem_cons.mpr ⟨rfl, ih⟩
  | jumped _ _ ih => exact List.forall_mem_cons.mpr ⟨rfl, ih⟩

/-- What questions and jumps hand on holds of all requests of a walk. -/
theorem forall_mem {P : FlowRequest → Prop} {Q : Round → Prop}
    (asked : ∀ {q reply nodeId question awaiting}, P q → Q (r.round q reply) →
      r.advance q = .ask nodeId question awaiting → P (q.replied nodeId awaiting reply))
    (jumped : ∀ {q target}, P q → r.advance q = .goto target → P (q.movedTo target))
    (walk : r.IsWalk q rounds) (start : P q) (each : ∀ x ∈ rounds, Q x) :
    ∀ x ∈ rounds, P x.request := by
  induction walk with
  | stopped => exact List.forall_mem_nil _
  | ended _ => exact List.forall_mem_singleton.mpr start
  | asked step _ ih =>
      obtain ⟨now, later⟩ := List.forall_mem_cons.mp each
      exact List.forall_mem_cons.mpr ⟨start, ih (asked start now step) later⟩
  | jumped step _ ih =>
      obtain ⟨-, later⟩ := List.forall_mem_cons.mp each
      exact List.forall_mem_cons.mpr ⟨start, ih (jumped start step) later⟩

end IsWalk

/-- A walk goes on until a round from which nothing follows, or as long as there are replies. -/
theorem walk_ends (r : Registry) (q : FlowRequest) (replies : List Json.Value) :
    (∀ x ∈ r.walk q replies, x.next.isSome = true) ∧ (r.walk q replies).length = replies.length ∨
      ∃ before last, r.walk q replies = before ++ [last] ∧
        (∀ x ∈ before, x.next.isSome = true) ∧ last.next = none := by
  induction replies generalizing q with
  | nil => simp [walk]
  | cons reply replies ih =>
      cases goes : (r.round q reply).next with
      | none => exact Or.inr ⟨[], _, by rw [walk, goes]; rfl, by simp, goes⟩
      | some next =>
          have here : (r.round q reply).next.isSome = true := by rw [goes]; rfl
          have rounds : r.walk q (reply :: replies) = r.round q reply :: r.walk next replies := by
            rw [walk, goes]
          rw [rounds]
          rcases ih next with ⟨on, all⟩ | ⟨before, last, rest, on, ends⟩
          · exact Or.inl ⟨List.forall_mem_cons.mpr ⟨here, on⟩, congrArg (· + 1) all⟩
          · refine Or.inr ⟨r.round q reply :: before, last, ?_, ?_, ends⟩
            · rw [rest, List.cons_append]
            · exact List.forall_mem_cons.mpr ⟨here, on⟩

end Registry
end Counsel
