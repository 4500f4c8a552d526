import Counsel.Flow.Builtin
import Counsel.Proofs.Flow.Step

/-!
The help that a question comes with.

What happens at a node is for the node to say; a registry hands it on. On the way an error becomes
a step of its own, and a question that is answered on a scale gets the labels of its node's scale
for help, in the place of any help it has from its definition. `Node.HandsOn` has one case for each
way in which a question is handed on.

* `advance_hands_on`: nothing else is changed between the node and whoever asked.
* `own_help_lost`: where the scale has no labels, a help from the definition is lost.
-/

namespace Counsel

/-- The labels of a node's scale; only a node with several questions can have any. -/
def Node.labels : Node → Dict String
  | .composite _ _ _ labels => labels
  | _ => .empty

/-- A help lists labels: each stands after its key, and the keys ascend. -/
def ListsLabels (labels : Dict String) (help : String) : Prop :=
  ∃ entries : List (String × String), entries.Pairwise (fun a b => a.1 < b.1) ∧
    (∀ key label, (key, label) ∈ entries ↔ labels.get? key = some label) ∧
    help = "1–5 scale: " ++ "; ".intercalate (entries.map fun e => e.1 ++ "=" ++ e.2)

/-- How a question of a node is handed on. -/
inductive Node.HandsOn (node : Node) (ask : Ask) : Ask → Prop
  /-- A question on a scale with labels gets these for help. -/
  | labelled {help : String} (scale : ask.kind = "scale_1_5") (labels : node.labels ≠ .empty)
      (lists : ListsLabels node.labels help) : HandsOn node ask { ask with helperText := some help }
  /-- A question on a scale without labels gets no help, and loses its own. -/
  | unlabelled (scale : ask.kind = "scale_1_5") (bare : node.labels = .empty) :
      HandsOn node ask { ask with helperText := none }
  /-- Any other question is as its definition has it. -/
  | plain (other : ask.kind ≠ "scale_1_5") : HandsOn node ask ask

namespace Flow

variable {f : Flow} {id : String} {node : Node} {answers : Answers}

/-- The help of a scale lists its labels, and there is one exactly if there are labels. -/
theorem scaleHelper_of_node (there : f.nodes.get? id = some node) :
    (node.labels = .empty ∧ f.scaleHelper id = none) ∨
      ∃ help, node.labels ≠ .empty ∧ ListsLabels node.labels help ∧
        f.scaleHelper id = some help := by
  cases node with
  | composite asks passIf rules labels =>
      by_cases bare : labels.isEmpty = true
      · exact Or.inl ⟨Dict.isEmpty_iff.mp bare, by simp only [scaleHelper, there, if_pos bare]⟩
      · refine Or.inr ⟨_, fun empty => bare (Dict.isEmpty_iff.mpr empty), ?_,
          by simp only [scaleHelper, there, if_neg bare]; rfl⟩
        exact ⟨labels.entries, labels.sorted, fun _ _ => Dict.get?_eq_some_iff.symm, rfl⟩
  | _ => exact Or.inl ⟨rfl, by simp only [scaleHelper, there]⟩

/-- A question that gets the help of its node's scale is handed on. -/
theorem handsOn_help (there : f.nodes.get? id = some node) (ask : Ask) :
    node.HandsOn ask (f.help id ask) := by
  unfold help
  split
  · rename_i scale
    rcases scaleHelper_of_node there with ⟨bare, none⟩ | ⟨help, labels, lists, some⟩
    · rw [none]
      exact .unlabelled scale bare
    · rw [some]
      exact .labelled scale labels lists
  · rename_i other
    exact .plain other

/-- A question is one of the node that was asked for. -/
theorem node_of_ask {nodeId awaiting : String} {ask : Ask}
    (asks : f.next id answers = .ok (.ask nodeId ask awaiting)) :
    nodeId = id ∧ ∃ node, f.nodes.get? id = some node := by
  cases there : f.nodes.get? id with
  | none =>
      rw [Flow.next, Flow.node, there] at asks
      cases asks
  | some node =>
      have happens := node.happens id answers
      rw [Flow.next, Flow.node, there] at asks
      rw [show node.step id answers = .ok (.ask nodeId ask awaiting) from asks] at happens
      cases happens <;> exact ⟨rfl, _, rfl⟩

end Flow

namespace Registry

variable {r : Registry} {q : FlowRequest} {f : Flow}

/-- **A registry hands on what the nodes of a flow say.** Of a flow that it knows, an error at the
node asked for becomes the step that tells it, a question is handed on with the help of its node's
scale, and every other step is as it is. -/
theorem advance_hands_on (known : r.get? q.flowId = some f) :
    let here := q.nodeId.getD f.start
    (∀ e, f.next here q.answers = .error e → r.advance q = .error e.message) ∧
      (∀ nodeId ask awaiting, f.next here q.answers = .ok (.ask nodeId ask awaiting) →
        nodeId = here ∧ ∃ node asked, f.nodes.get? here = some node ∧ node.HandsOn ask asked ∧
          r.advance q = .ask nodeId asked awaiting) ∧
      ∀ step, f.next here q.answers = .ok step →
        (∀ nodeId ask awaiting, step ≠ .ask nodeId ask awaiting) → r.advance q = step := by
  intro here
  rw [advance_of_flow known, Flow.advance]
  refine ⟨fun e failed => ?_, fun nodeId ask awaiting asks => ?_, fun step next other => ?_⟩
  · rw [failed]
  · obtain ⟨rfl, node, there⟩ := Flow.node_of_ask asks
    rw [asks]
    exact ⟨rfl, node, _, there, Flow.handsOn_help there ask, rfl⟩
  · rw [next]
    cases step with
    | ask nodeId ask awaiting => exact absurd rfl (other nodeId ask awaiting)
    | _ => rfl

/-- The first question of a flow on a scale with labels. -/
theorem advance_hands_on_labels :
    let q : FlowRequest := .first "how_fast"
    let ask : Ask := ⟨"year", "scale_1_5",
      "If this turns out badly, how much will it affect your happiness a year from now?", none⟩
    Builtin.registry.get? q.flowId = some Builtin.howFast ∧
      Builtin.howFast.next "happiness_test" q.answers = .ok (.ask "happiness_test" ask "year") ∧
      ∃ node asked, Builtin.howFast.nodes.get? "happiness_test" = some node ∧
        node.HandsOn ask asked ∧ Builtin.registry.advance q = .ask "happiness_test" asked "year" := by
  intro q ask
  have known : Builtin.registry.get? q.flowId = some Builtin.howFast := by decide
  have asks : Builtin.howFast.next "happiness_test" q.answers =
      .ok (.ask "happiness_test" ask "year") := rfl
  exact ⟨known, asks, ((advance_hands_on known).2.1 _ _ _ asks).2⟩

/-- A question on a scale without labels does not keep the help that its definition gives it. -/
theorem own_help_lost :
    let ask : Ask := ⟨"year", "scale_1_5", "In a year?", some "5 is the most."⟩
    let node : Node := .composite [ask] "max(year) <= 2" [⟨none, true, "impact"⟩] .empty
    let f : Flow := ⟨"speed", "impact", .ofList [("impact", node)]⟩
    let r : Registry := .ofFlows [f]
    r.get? "speed" = some f ∧ f.nodes.get? "impact" = some node ∧ node.labels = .empty ∧
      f.next "impact" .empty = .ok (.ask "impact" ask "year") ∧
      r.advance (.first "speed") = .ask "impact" { ask with helperText := none } "year" := by
  exact ⟨by decide, by decide, rfl, rfl, by decide⟩

end Registry
end Counsel
