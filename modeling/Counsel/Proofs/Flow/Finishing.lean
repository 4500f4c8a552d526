import Counsel.Flow.Builtin
import Counsel.Proofs.Flow.Asking
import Mathlib.Data.List.Perm.Subperm
import Mathlib.Logic.Relation

/-!
That flows come to an end. A flow is well-formed if its start and all that its nodes lead to is
there, and every criterion can be read and has a rule for either outcome (`Flow.WellFormed`). At a
node of such a flow nothing fails but a criterion, at an answer that is no number
(`Node.step_error_iff`).

Two things bound a walk. It asks under different names, each of a question of the flow or of one of
its nodes (`Registry.IsWalk.length_awaited_le`); and if the flow has no way back, it never comes to
a node again (`Registry.IsWalk.length_jump_lt`). So it is over after as many rounds as there are
questions and twice the nodes.

* `flows_finish`: that every walk through a well-formed flow without a way back ends with a
  recommendation, and that the built-in flows are of this kind.
-/

namespace Counsel

namespace Node

/-- The names of the nodes that a node may lead to. -/
def targets : Node → List String
  | .composite _ _ rules _ => rules.map (·.goto)
  | .yesno _ onYes onNo => [onYes, onNo]
  | .collect _ next => [next]
  | .finish _ => []

/-- The questions that a node lists. -/
def asks : Node → List Ask
  | .composite asks _ _ _ => asks
  | _ => []

/-- The names of the answers that a node's criterion compares. -/
def keys : Node → List String
  | .composite _ passIf _ _ => ((Criterion.parse? passIf).map (·.keys)).getD []
  | _ => []

/-- Whether a node has a criterion that can be read, and a rule for either outcome of it. -/
def Decides : Node → Prop
  | .composite _ passIf rules _ =>
      (Criterion.parse? passIf).isSome ∧ (∃ rule ∈ rules, rule.when.isSome) ∧
        ∃ rule ∈ rules, rule.otherwise
  | _ => True

instance (node : Node) : Decidable node.Decides := by
  cases node <;> unfold Decides <;> infer_instance

variable {id : String} {answers : Answers} {node : Node} {target : String} {e : FlowError}

theorem mem_targets_of_happens (happens : node.Happens id answers (.ok (.goto target))) :
    target ∈ node.targets := by
  cases happens with
  | decides _ _ follows => exact List.mem_map.mpr ⟨_, List.mem_of_find?_eq_some follows, rfl⟩
  | branches _ one => simpa [targets] using one
  | moves _ => exact List.mem_singleton_self _

/-- A rule for either outcome is one that applies. -/
theorem exists_rule_applies {rules : List Rule} (pass : ∃ rule ∈ rules, rule.when.isSome)
    (fail : ∃ rule ∈ rules, rule.otherwise) (passed : Bool) :
    rules.find? (·.applies passed) ≠ none := by
  rw [ne_eq, List.find?_eq_none]
  intro none
  cases passed with
  | true =>
      obtain ⟨rule, member, when⟩ := pass
      exact none rule member (by simp [Rule.applies, when])
  | false =>
      obtain ⟨rule, member, otherwise⟩ := fail
      exact none rule member (by simp [Rule.applies, otherwise])

/-- A node that decides fails only with all its questions answered, at the first key of its
criterion whose answer is no number. -/
theorem step_error_iff (decides : node.Decides) :
    node.step id answers = .error e ↔
      (∀ ask ∈ node.asks, answers.contains ask.id = true) ∧
        ∃ key value, node.keys.find? (Answers.refused answers) = some key ∧
          answers.get? key = some value ∧ e = .notANumber key value.toText := by
  have happens := node.happens id answers
  revert happens
  generalize node.step id answers = result
  intro happens
  cases node with
  | composite asks passIf rules labels =>
      obtain ⟨c, read⟩ := Option.isSome_iff_exists.mp decides.1
      have evaluates : Criterion.evalText passIf answers = c.eval answers := by
        rw [Criterion.evalText, read]
      have named : (composite asks passIf rules labels).keys = c.keys := by simp [keys, read]
      rw [named, ← Criterion.eval_error_iff, ← evaluates]
      show _ ↔ (∀ ask ∈ asks, answers.contains ask.id = true) ∧ _
      cases happens with
      | @asks _ _ _ _ ask first =>
          have unanswered : answers.contains ask.id = false := by simpa using List.find?_some first
          refine ⟨by simp, ?_⟩
          rintro ⟨answered, -⟩
          rw [answered ask (List.mem_of_find?_eq_some first)] at unanswered
          cases unanswered
      | decides answered decided follows => simp [decided]
      | undecided answered failed =>
          simp only [failed, Except.error.injEq]
          exact (and_iff_right answered).symm
      | unhandled answered decided stuck =>
          exact absurd stuck (exists_rule_applies decides.2.1 decides.2.2 _)
  | yesno prompt onYes onNo => cases happens <;> simp [keys]
  | collect prompt next => cases happens <;> simp [keys]
  | finish recommendation => cases happens; simp [keys]

end Node

namespace Flow

/-- Every node a flow starts with or leads to is there, and its criteria and rules decide. -/
structure WellFormed (f : Flow) : Prop where
  start : f.nodes.contains f.start = true
  targets : ∀ id node, f.nodes.get? id = some node →
    ∀ target ∈ node.targets, f.nodes.contains target = true
  decides : ∀ id node, f.nodes.get? id = some node → node.Decides

instance (f : Flow) : Decidable f.WellFormed :=
  decidable_of_iff
    (f.nodes.contains f.start = true ∧ ∀ entry ∈ f.nodes.entries,
      (∀ target ∈ entry.2.targets, f.nodes.contains target = true) ∧ entry.2.Decides)
    { mp := fun ⟨start, each⟩ =>
        { start
          targets := fun id node there => (each (id, node) (Dict.get?_eq_some_iff.mp there)).1
          decides := fun id node there => (each (id, node) (Dict.get?_eq_some_iff.mp there)).2 }
      mpr := fun wellFormed =>
        ⟨wellFormed.start, fun _ member =>
          have there := Dict.get?_eq_some_iff.mpr member
          ⟨wellFormed.targets _ _ there, wellFormed.decides _ _ there⟩⟩ }

/-- One node leads to another. -/
def Leads (f : Flow) (id target : String) : Prop :=
  ∃ node, f.nodes.get? id = some node ∧ target ∈ node.targets

/-- No way from a node leads back to it. -/
def Acyclic (f : Flow) : Prop := ∀ id, ¬ Relation.TransGen f.Leads id id

/-- The questions that the nodes of a flow list. -/
def asks (f : Flow) : List Ask := f.nodes.entries.flatMap (·.2.asks)

/-- The names of the answers that the criteria of a flow compare. -/
def keys (f : Flow) : List String := f.nodes.entries.flatMap (·.2.keys)

variable {f : Flow} {id target : String} {node : Node}

theorem mem_asks (there : f.nodes.get? id = some node) {ask : Ask} (listed : ask ∈ node.asks) :
    ask ∈ f.asks :=
  List.mem_flatMap.mpr ⟨(id, node), Dict.get?_eq_some_iff.mp there, listed⟩

theorem mem_keys (there : f.nodes.get? id = some node) {key : String} (named : key ∈ node.keys) :
    key ∈ f.keys :=
  List.mem_flatMap.mpr ⟨(id, node), Dict.get?_eq_some_iff.mp there, named⟩

theorem WellFormed.contains_of_leads (wellFormed : f.WellFormed) (leads : f.Leads id target) :
    f.nodes.contains target = true := by
  obtain ⟨node, there, leads⟩ := leads
  exact wellFormed.targets id node there target leads

theorem WellFormed.contains_of_path (wellFormed : f.WellFormed)
    (path : Relation.TransGen f.Leads id target) : f.nodes.contains target = true := by
  cases path with
  | single leads => exact wellFormed.contains_of_leads leads
  | tail _ leads => exact wellFormed.contains_of_leads leads

/-- A flow whose nodes can be numbered so that every way leads up has no way back. -/
theorem acyclic_of_rank (rank : String → Nat)
    (up : ∀ entry ∈ f.nodes.entries, ∀ target ∈ entry.2.targets, rank entry.1 < rank target) :
    f.Acyclic := by
  have rises : ∀ {id target}, f.Leads id target → rank id < rank target := by
    rintro id target ⟨node, there, leads⟩
    exact up (id, node) (Dict.get?_eq_some_iff.mp there) target leads
  have climbs : ∀ {id target}, Relation.TransGen f.Leads id target → rank id < rank target := by
    intro id target path
    induction path with
    | single leads => exact rises leads
    | tail _ leads ih => exact Nat.lt_trans ih (rises leads)
  exact fun id path => Nat.lt_irrefl _ (climbs path)

end Flow

/-- If a round asks, its reply is an answer, and a number where a criterion of the flow names it. -/
def Round.Fits (x : Round) (f : Flow) : Prop :=
  ∀ awaiting ∈ x.awaited, x.reply.IsAnswer ∧ (awaiting ∈ f.keys → x.reply.isNumeric = true)

instance (x : Round) (f : Flow) : Decidable (x.Fits f) := by
  unfold Round.Fits; infer_instance

namespace Registry

variable {r : Registry} {q : FlowRequest} {rounds : List Round} {f : Flow} {node : Node}

/-- A node that is there and decides fails only for an answer that is no number. -/
theorem advance_error_iff (known : r.get? q.flowId = some f)
    (there : f.nodes.get? (q.nodeId.getD f.start) = some node) (decides : node.Decides)
    {message : String} :
    r.advance q = .error message ↔
      (∀ ask ∈ node.asks, q.answers.contains ask.id = true) ∧
        ∃ key value, node.keys.find? (Answers.refused q.answers) = some key ∧
          q.answers.get? key = some value ∧
          message = (FlowError.notANumber key value.toText).message := by
  rw [advance_of_flow known, Flow.advance_of_node there]
  constructor
  · intro failed
    have happens := node.happens (q.nodeId.getD f.start) q.answers
    cases result : node.step (q.nodeId.getD f.start) q.answers with
    | ok step =>
        rw [result] at failed happens
        cases happens <;> cases failed
    | error e =>
        rw [result] at failed
        obtain ⟨answered, key, value, first, found, rfl⟩ := (Node.step_error_iff decides).mp result
        exact ⟨answered, key, value, first, found, (FlowStep.error.inj failed).symm⟩
  · rintro ⟨answered, key, value, first, found, rfl⟩
    rw [(Node.step_error_iff decides).mpr ⟨answered, key, value, first, found, rfl⟩]
    rfl

/-- What a walk through a flow needs to go on: it is at a node that is there, and no criterion of
the flow refuses an answer that it has. -/
structure Going (r : Registry) (f : Flow) (q : FlowRequest) : Prop where
  known : r.get? q.flowId = some f
  there : f.nodes.contains (q.nodeId.getD f.start) = true
  taken : ∀ key ∈ f.keys, Answers.refused q.answers key = false

theorem Going.replied {reply : Json.Value} {nodeId awaiting : String} {question : Ask}
    (going : r.Going f q) (fits : (r.round q reply).Fits f)
    (step : r.advance q = .ask nodeId question awaiting) :
    r.Going f (q.replied nodeId awaiting reply) := by
  obtain ⟨f', node, ask, known, -, there, -, -⟩ := ask_of_advance step
  cases going.known.symm.trans known
  refine ⟨known, ?_, ?_⟩
  · rw [FlowRequest.replied, Dict.contains, Option.getD_some, there]
    rfl
  · intro key named
    rw [Answers.refused, FlowRequest.replied, Dict.get?_insert]
    split
    · rename_i same
      subst same
      have numeric : reply.isNumeric = true := (fits key (awaited_of_ask step)).2 named
      simp [numeric]
    · exact going.taken key named

theorem Going.movedTo {target : String} (going : r.Going f q) (wellFormed : f.WellFormed)
    (step : r.advance q = .goto target) : r.Going f (q.movedTo target) := by
  obtain ⟨f', node, known, there, happens⟩ := goto_of_advance step
  cases going.known.symm.trans known
  exact ⟨known, wellFormed.targets _ node there target (Node.mem_targets_of_happens happens),
    going.taken⟩

/-- Where a walk can go on, there is no error. -/
theorem Going.no_error (going : r.Going f q) (wellFormed : f.WellFormed) (message : String) :
    r.advance q ≠ .error message := by
  obtain ⟨node, there⟩ := Option.isSome_iff_exists.mp going.there
  intro failed
  obtain ⟨-, key, value, first, found, -⟩ :=
    (advance_error_iff going.known there (wellFormed.decides _ node there)).mp failed
  have refused := List.find?_some first
  rw [going.taken key (Flow.mem_keys there (List.mem_of_find?_eq_some first))] at refused
  cases refused

/-- Where a walk that could go on ends, it ends with a recommendation. -/
theorem Going.finish_of_end {reply : Json.Value} (going : r.Going f q) (wellFormed : f.WellFormed)
    (ends : (r.round q reply).next = none) :
    ∃ recommendation, r.advance q = .finish true recommendation := by
  rcases Round.step_of_end ends with ⟨ended, recommendation, step⟩ | ⟨message, step⟩
  · obtain ⟨f', node, result, -, -, happens, told⟩ :=
      happens_of_advance step fun _ => FlowStep.noConfusion
    cases happens with
    | finishes =>
        cases told
        exact ⟨_, step⟩
    | _ => cases told
  · exact absurd step (going.no_error wellFormed message)

/-- A question is one that a node of the flow lists, or asked under the name of a node. -/
theorem Going.mem_names (going : r.Going f q) {nodeId awaiting : String} {question : Ask}
    (step : r.advance q = .ask nodeId question awaiting) :
    awaiting ∈ f.asks.map (·.id) ++ f.nodes.keys := by
  obtain ⟨f', node, ask, known, -, there, -, happens⟩ := ask_of_advance step
  cases going.known.symm.trans known
  have named : nodeId ∈ f.nodes.keys := Dict.mem_keys_of_get? there
  cases happens with
  | asks first =>
      have listed := Flow.mem_asks there (List.mem_of_find?_eq_some first)
      exact List.mem_append_left _ (List.mem_map_of_mem listed)
  | asksYesno _ => exact List.mem_append_right _ named
  | asksText _ => exact List.mem_append_right _ named

/-! ### How long a walk goes on -/

/-- In a flow without a way back, a walk jumps to nodes that differ, all of them ahead of it. -/
theorem IsWalk.jumps_nodup (walk : r.IsWalk q rounds) (known : r.get? q.flowId = some f)
    (acyclic : f.Acyclic) :
    (rounds.filterMap Round.jump).Nodup ∧
      ∀ target ∈ rounds.filterMap Round.jump,
        Relation.TransGen f.Leads (q.nodeId.getD f.start) target := by
  induction walk with
  | stopped => exact ⟨List.nodup_nil, List.forall_mem_nil _⟩
  | ended ends =>
      rw [List.filterMap_cons_none (Round.jump_of_end ends)]
      exact ⟨List.nodup_nil, List.forall_mem_nil _⟩
  | asked step _ ih =>
      rw [List.filterMap_cons_none (jump_of_ask step)]
      obtain ⟨f', node, ask, known', rfl, -⟩ := ask_of_advance step
      cases known.symm.trans known'
      exact ih known
  | @jumped q reply target rounds step _ ih =>
      obtain ⟨nodup, ahead⟩ := ih known
      obtain ⟨f', node, known', there, happens⟩ := goto_of_advance step
      cases known.symm.trans known'
      have leads : f.Leads (q.nodeId.getD f.start) target :=
        ⟨node, there, Node.mem_targets_of_happens happens⟩
      rw [List.filterMap_cons_some (jump_of_goto step)]
      refine ⟨List.nodup_cons.mpr ⟨?_, nodup⟩, List.forall_mem_cons.mpr ⟨?_, ?_⟩⟩
      · exact fun again => acyclic target (ahead target again)
      · exact .single leads
      · exact fun later member => .head leads (ahead later member)

/-- Every request of a walk finds what it needs to go on. -/
theorem IsWalk.going (walk : r.IsWalk q rounds) (going : r.Going f q) (wellFormed : f.WellFormed)
    (fits : ∀ x ∈ rounds, x.Fits f) : ∀ x ∈ rounds, r.Going f x.request :=
  walk.forall_mem (P := r.Going f) (Q := (·.Fits f)) Going.replied
    (fun going step => going.movedTo wellFormed step) going fits

/-- A walk asks at most as often as the flow has questions and nodes: under different names. -/
theorem IsWalk.length_awaited_le (walk : r.IsWalk q rounds) (going : r.Going f q)
    (wellFormed : f.WellFormed) (sound : Answers.Sound q.answers)
    (fits : ∀ x ∈ rounds, x.Fits f) :
    (rounds.filterMap Round.awaited).length ≤ f.asks.length + f.nodes.size := by
  have answered : ∀ x ∈ rounds, x.Answered := by
    intro x member asks
    obtain ⟨awaiting, awaited⟩ := Option.isSome_iff_exists.mp asks
    exact (fits x member awaiting awaited).1
  have named : rounds.filterMap Round.awaited ⊆ f.asks.map (·.id) ++ f.nodes.keys := by
    intro awaiting member
    obtain ⟨x, inWalk, awaited⟩ := List.mem_filterMap.mp member
    rw [← walk.round_of_mem x inWalk] at awaited
    obtain ⟨nodeId, question, step⟩ := ask_of_awaited awaited
    exact (walk.going going wellFormed fits x inWalk).mem_names step
  have few := ((walk.awaited_nodup sound answered).1.subperm named).length_le
  simpa [Dict.keys, Dict.size] using few

/-- A walk through a flow without a way back jumps less often than the flow has nodes: it never
comes to a node that it has been at. -/
theorem IsWalk.length_jump_lt (walk : r.IsWalk q rounds) (going : r.Going f q)
    (wellFormed : f.WellFormed) (acyclic : f.Acyclic) :
    (rounds.filterMap Round.jump).length < f.nodes.size := by
  obtain ⟨nodup, ahead⟩ := walk.jumps_nodup going.known acyclic
  have visits : (q.nodeId.getD f.start :: rounds.filterMap Round.jump).Nodup :=
    List.nodup_cons.mpr ⟨fun again => acyclic _ (ahead _ again), nodup⟩
  have nodes : q.nodeId.getD f.start :: rounds.filterMap Round.jump ⊆ f.nodes.keys := by
    intro id member
    have there : f.nodes.contains id = true := by
      rcases List.mem_cons.mp member with rfl | later
      · exact going.there
      · exact wellFormed.contains_of_path (ahead id later)
    obtain ⟨node, found⟩ := Option.isSome_iff_exists.mp there
    exact Dict.mem_keys_of_get? found
  have few := (visits.subperm nodes).length_le
  rwa [List.length_cons, Dict.keys, List.length_map] at few

/-- With replies enough, a walk through a well-formed flow without a way back comes to a
recommendation. -/
theorem walk_finishes {replies : List Json.Value} (going : r.Going f q)
    (wellFormed : f.WellFormed) (acyclic : f.Acyclic) (sound : Answers.Sound q.answers)
    (fits : ∀ x ∈ r.walk q replies, x.Fits f)
    (enough : f.asks.length + 2 * f.nodes.size ≤ replies.length) :
    ∃ before last recommendation, r.walk q replies = before ++ [last] ∧
      last.step = .finish true recommendation ∧
      before.length + 1 ≤ f.asks.length + 2 * f.nodes.size := by
  have walk := isWalk_walk r q replies
  have goesOn : ((r.walk q replies).filter (·.next.isSome)).length + 1 ≤
      f.asks.length + 2 * f.nodes.size := by
    have asks := walk.length_awaited_le going wellFormed sound fits
    have jumps := walk.length_jump_lt going wellFormed acyclic
    rw [Round.length_goingOn]
    omega
  rcases walk_ends r q replies with ⟨on, all⟩ | ⟨before, last, rounds, on, ends⟩
  · rw [List.filter_eq_self.mpr on] at goesOn
    omega
  · have inWalk : last ∈ r.walk q replies := by simp [rounds]
    have round := walk.round_of_mem last inWalk
    have going := walk.going going wellFormed fits last inWalk
    obtain ⟨recommendation, finishes⟩ := going.finish_of_end wellFormed (round ▸ ends)
    rw [rounds, List.filter_append, List.filter_eq_self.mpr on,
      List.filter_cons_of_neg (by simp [ends])] at goesOn
    refine ⟨before, last, recommendation, rounds, ?_, by simpa using goesOn⟩
    rw [← round]
    exact finishes

end Registry

namespace Builtin

/-- The names of the nodes of the flows, each after those that lead to it. -/
def downhill : List String :=
  ["worked", "missed", "change", "options", "win_in_control", "fail_in_control", "done", "option",
    "worst", "likelihood", "promising", "risky", "outcome", "metric", "deadline", "realistic",
    "rescope", "ready", "happiness_test", "reversible", "parallel", "go_fast", "slow_down"]

theorem wellFormed_of_mem : ∀ f ∈ flows, f.WellFormed := by decide +kernel

theorem acyclic_of_mem : ∀ f ∈ flows, f.Acyclic := by
  have up : ∀ f ∈ flows, ∀ entry ∈ f.nodes.entries, ∀ target ∈ entry.2.targets,
      downhill.idxOf entry.1 < downhill.idxOf target := by decide +kernel
  exact fun f member => Flow.acyclic_of_rank downhill.idxOf (up f member)

end Builtin

namespace Registry

/-- **Well-formed flows finish with a recommendation.** At a node of a well-formed flow, a request
fails exactly if all that the node asks is answered and an answer that its criterion compares is no
number; the error names the first of these. If the flow has no way back, a walk that has a number
wherever a criterion compares ends with a recommendation, after at most as many requests as the flow
has questions and twice its nodes. All built-in flows are such. -/
theorem flows_finish :
    (∀ f ∈ Builtin.flows, f.WellFormed ∧ f.Acyclic) ∧
      ∀ (r : Registry) (flowId : String) (f : Flow), r.get? flowId = some f → f.WellFormed →
        (∀ q node message, q.flowId = flowId →
          f.nodes.get? (q.nodeId.getD f.start) = some node →
          (r.advance q = .error message ↔
            (∀ ask ∈ node.asks, q.answers.contains ask.id = true) ∧
              ∃ key value, node.keys.find? (Answers.refused q.answers) = some key ∧
                q.answers.get? key = some value ∧
                message = (FlowError.notANumber key value.toText).message)) ∧
          (f.Acyclic → ∀ replies, f.asks.length + 2 * f.nodes.size ≤ replies.length →
            (∀ x ∈ r.walk (.first flowId) replies, x.Fits f) →
            ∃ before last recommendation, r.walk (.first flowId) replies = before ++ [last] ∧
              last.step = .finish true recommendation ∧
              before.length + 1 ≤ f.asks.length + 2 * f.nodes.size) := by
  refine ⟨fun f member => ⟨Builtin.wellFormed_of_mem f member, Builtin.acyclic_of_mem f member⟩, ?_⟩
  intro r flowId f known wellFormed
  constructor
  · rintro q node message rfl there
    exact advance_error_iff known there (wellFormed.decides _ node there)
  · intro acyclic replies enough fits
    have going : r.Going f (.first flowId) :=
      { known
        there := wellFormed.start
        taken := fun _ _ => rfl }
    exact walk_finishes going wellFormed acyclic (Answers.Sound.first flowId) fits enough

/-- A choice that weighs and cannot be undone takes nine of at most thirteen requests. -/
theorem flows_finish_slow_down :
    let f := Builtin.howFast
    let replies := List.replicate 3 (.number (.integer 4)) ++ List.replicate 10 (.text "no")
    let rounds := Builtin.registry.walk (.first f.id) replies
    Builtin.registry.get? f.id = some f ∧ f.WellFormed ∧ f.Acyclic ∧ (∀ x ∈ rounds, x.Fits f) ∧
      f.asks.length + 2 * f.nodes.size = replies.length ∧ rounds.length = 9 ∧
      ∃ before last recommendation, rounds = before ++ [last] ∧
        last.step = .finish true recommendation ∧ before.length + 1 ≤ 13 := by
  intro f replies rounds
  have known : Builtin.registry.get? f.id = some f := by decide +kernel
  obtain ⟨wellFormed, acyclic⟩ := flows_finish.1 f (by decide +kernel)
  have fits : ∀ x ∈ rounds, x.Fits f := by decide +kernel
  have enough : f.asks.length + 2 * f.nodes.size = replies.length := by decide +kernel
  refine ⟨known, wellFormed, acyclic, fits, enough, by decide +kernel, ?_⟩
  exact (flows_finish.2 _ f.id f known wellFormed).2 acyclic replies (Nat.le_of_eq enough) fits

end Registry
end Counsel
