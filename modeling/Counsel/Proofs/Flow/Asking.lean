import Counsel.Proofs.Flow.Answer
import Counsel.Proofs.Flow.Step

/-!
What a walk asks. Each kind of node has its own notion of a question that is answered, and none of
them asks under a name whose text is not blank (`Registry.blank_of_ask`). As long as every question
of a walk gets an answer, all that is kept are answers, so a question is asked only under a name
that has none yet (`Registry.absent_of_ask`), and after that it has one.

* `asked_once`: no walk asks under a name twice, however its flow is made, and the questions of a
  node come in the order of their definition.
-/

namespace Counsel

namespace Round

/-- If a round asks, its reply is an answer. -/
def Answered (x : Round) : Prop := x.awaited.isSome → x.reply.IsAnswer

instance (x : Round) : Decidable x.Answered := by
  unfold Answered; infer_instance

end Round

/-- All that is kept are answers. -/
def Answers.Sound (answers : Answers) : Prop :=
  ∀ key value, answers.get? key = some value → value.IsAnswer

theorem Answers.Sound.insert {answers : Answers} (sound : Answers.Sound answers)
    {value : Json.Value} (answer : value.IsAnswer) (key : String) :
    Answers.Sound (answers.insert key value) := by
  intro other found there
  rw [Dict.get?_insert] at there
  split at there
  · cases there
    exact answer
  · exact sound other found there

/-- A walk begins without anything kept. -/
theorem Answers.Sound.first (flowId : String) :
    Answers.Sound (FlowRequest.first flowId).answers := by
  intro key value found
  cases found

/-- The questions that have no answer yet. -/
def Answers.unanswered (answers : Answers) (asks : List Ask) : List Ask :=
  asks.filter fun ask => !answers.contains ask.id

theorem Answers.unanswered_insert (answers : Answers) (key : String) (value : Json.Value)
    (asks : List Ask) :
    Answers.unanswered (answers.insert key value) asks =
      (Answers.unanswered answers asks).filter (·.id ≠ key) := by
  rw [unanswered, unanswered, List.filter_filter]
  refine List.filter_congr fun ask _ => ?_
  rw [Dict.contains_insert, Bool.not_or, decide_not]

/-- Once the first question without an answer has one, later ones are left. -/
theorem Answers.unanswered_of_first {answers : Answers} {asks : List Ask} {ask : Ask}
    (first : asks.find? (fun ask => !answers.contains ask.id) = some ask) (value : Json.Value) :
    ∃ rest, Answers.unanswered answers asks = ask :: rest ∧
      (Answers.unanswered (answers.insert ask.id value) asks).Sublist rest := by
  rw [← List.head?_filter] at first
  obtain ⟨rest, whole⟩ := List.head?_eq_some_iff.mp first
  refine ⟨rest, whole, ?_⟩
  have left : Answers.unanswered answers asks = ask :: rest := whole
  rw [unanswered_insert, left, List.filter_cons_of_neg (by simp)]
  exact List.filter_sublist

namespace Registry

variable {r : Registry} {q : FlowRequest} {rounds : List Round} {nodeId awaiting : String}
  {question : Ask}

/-- A question is asked under the name of its own, which has no answer or a blank one. -/
theorem blank_of_ask (step : r.advance q = .ask nodeId question awaiting) :
    awaiting = question.id ∧ Text.Blank (answerText q.answers awaiting) := by
  obtain ⟨f, node, ask, -, -, -, rfl, happens⟩ := ask_of_advance step
  have unsaid : ∀ key, q.answers.contains key = false → Text.Blank (answerText q.answers key) := by
    intro key absent
    have nothing : q.answers.get? key = none := by simpa [Dict.contains] using absent
    rw [answerText, nothing]
    decide
  cases happens with
  | asks first =>
      refine ⟨by rw [Flow.help_id], unsaid _ ?_⟩
      simpa using List.find?_some first
  | asksYesno unanswered => exact ⟨by rw [Flow.help_id], unsaid _ unanswered⟩
  | asksText blank => exact ⟨by rw [Flow.help_id], blank⟩

/-- Among answers, a question is asked under a name that has none. -/
theorem absent_of_ask (sound : Answers.Sound q.answers)
    (step : r.advance q = .ask nodeId question awaiting) : q.answers.get? awaiting = none := by
  cases found : q.answers.get? awaiting with
  | none => rfl
  | some value =>
      have blank := (blank_of_ask step).2
      exact absurd blank (not_blank_answerText found (sound awaiting value found))

/-- Along a walk whose questions are answered, nothing but answers is kept. -/
theorem IsWalk.sound (walk : r.IsWalk q rounds) (sound : Answers.Sound q.answers)
    (answered : ∀ x ∈ rounds, x.Answered) :
    ∀ x ∈ rounds, Answers.Sound x.request.answers := by
  refine walk.forall_mem (P := fun q => Answers.Sound q.answers) (Q := Round.Answered) ?_ ?_ sound
    answered
  · intro q reply nodeId question awaiting sound answered step
    exact sound.insert (answered (by rw [awaited_of_ask step]; rfl)) awaiting
  · intro q target sound _
    exact sound

/-- The names under which a walk asks differ, and none has an answer when the walk begins. -/
theorem IsWalk.awaited_nodup (walk : r.IsWalk q rounds) (sound : Answers.Sound q.answers)
    (answered : ∀ x ∈ rounds, x.Answered) :
    (rounds.filterMap Round.awaited).Nodup ∧
      ∀ awaiting ∈ rounds.filterMap Round.awaited, q.answers.get? awaiting = none := by
  induction walk with
  | stopped => exact ⟨List.nodup_nil, List.forall_mem_nil _⟩
  | ended ends =>
      rw [List.filterMap_cons_none (Round.awaited_of_end ends)]
      exact ⟨List.nodup_nil, List.forall_mem_nil _⟩
  | @asked q reply nodeId awaiting question rounds step _ ih =>
      obtain ⟨answer, later⟩ := List.forall_mem_cons.mp answered
      have now : (r.round q reply).awaited = some awaiting := awaited_of_ask step
      have kept := sound.insert (answer (by rw [now]; rfl)) awaiting
      obtain ⟨nodup, absent⟩ := ih kept later
      rw [List.filterMap_cons_some now]
      refine ⟨List.nodup_cons.mpr ⟨?_, nodup⟩, List.forall_mem_cons.mpr ⟨?_, ?_⟩⟩
      · exact fun again => (Dict.get?_insert_eq_none.mp (absent awaiting again)).1 rfl
      · exact absent_of_ask sound step
      · exact fun other member => (Dict.get?_insert_eq_none.mp (absent other member)).2
  | jumped step _ ih =>
      rw [List.filterMap_cons_none (awaited_of_goto step)]
      exact ih sound (List.forall_mem_cons.mp answered).2

/-- A walk asks the questions of a node in the order of their definition, each once, and none that
has an answer already. -/
theorem IsWalk.askedAt_sublist (walk : r.IsWalk q rounds) {f : Flow} {id passIf : String}
    {asks : List Ask} {rules : List Rule} {labels : Dict String} (known : r.get? q.flowId = some f)
    (there : f.nodes.get? id = some (.composite asks passIf rules labels)) :
    (rounds.filterMap (Round.askedAt id)).Sublist
      ((Answers.unanswered q.answers asks).map (f.help id)) := by
  induction walk with
  | stopped => exact List.nil_sublist _
  | ended ends =>
      rw [List.filterMap_cons_none (Round.askedAt_of_end ends id)]
      exact List.nil_sublist _
  | @asked q reply nodeId awaiting question rounds step _ ih =>
      have later := ih known
      rw [FlowRequest.replied] at later
      by_cases here : nodeId = id
      · subst here
        rw [List.filterMap_cons_some (by rw [askedAt_of_ask step, if_pos rfl])]
        obtain ⟨f', node, ask, known', -, there', rfl, happens⟩ := ask_of_advance step
        cases known.symm.trans known'
        cases there.symm.trans there'
        cases happens with
        | asks first =>
          obtain ⟨rest, first, fewer⟩ := Answers.unanswered_of_first first reply
          rw [first, List.map_cons]
          exact (later.trans (fewer.map _)).cons_cons _
      · rw [List.filterMap_cons_none (by rw [askedAt_of_ask step, if_neg here])]
        rw [Answers.unanswered_insert] at later
        exact later.trans (List.filter_sublist.map _)
  | jumped step _ ih =>
      rw [List.filterMap_cons_none (askedAt_of_goto step id)]
      exact ih known

/-- **No question is asked twice.** In a walk through any flow, with an answer to every question and
however long it is, the names under which it asks differ; each has no answer in the request that is
asked it; and the questions of a node with several come in the order of their definition. -/
theorem asked_once (r : Registry) (flowId : String) (replies : List Json.Value)
    (answered : ∀ x ∈ r.walk (.first flowId) replies, x.Answered) :
    let rounds := r.walk (.first flowId) replies
    (rounds.filterMap Round.awaited).Nodup ∧
      (∀ x ∈ rounds, ∀ nodeId question awaiting, x.step = .ask nodeId question awaiting →
        awaiting = question.id ∧ x.request.answers.get? awaiting = none) ∧
      ∀ f id asks passIf rules labels, r.get? flowId = some f →
        f.nodes.get? id = some (.composite asks passIf rules labels) →
        (rounds.filterMap (Round.askedAt id)).Sublist (asks.map (f.help id)) := by
  intro rounds
  have walk : r.IsWalk (.first flowId) rounds := isWalk_walk r _ replies
  have sound := Answers.Sound.first flowId
  refine ⟨(walk.awaited_nodup sound answered).1, ?_, ?_⟩
  · intro x member nodeId question awaiting step
    rw [← walk.round_of_mem x member] at step
    exact ⟨(blank_of_ask step).1, absent_of_ask (walk.sound sound answered x member) step⟩
  · intro f id asks passIf rules labels known there
    exact (walk.askedAt_sublist known there).trans (List.filter_sublist.map _)

/-- Round and round between nodes that share their names: each question comes once. -/
theorem asked_once_in_a_circle :
    let circle : Flow := ⟨"circle", "scale", .ofList
      [("scale", .composite
          [⟨"year", "scale_1_5", "In a year?", none⟩, ⟨"why", "text", "Why?", none⟩]
          "max(year) <= 2" [⟨some "low", true, "why"⟩] (.ofList [("1", "none"), ("5", "huge")])),
        ("why", .collect "Why?" "sure"), ("sure", .yesno "Sure?" "scale" "nowhere")]⟩
    let r : Registry := .ofFlows [circle]
    let said : Json.Value := .text "1"
    let rounds := r.walk (.first "circle") (List.replicate 9 said)
    (∀ x ∈ rounds, x.Answered) ∧ rounds.length = 9 ∧
      rounds.filterMap Round.awaited = ["year", "why", "sure"] ∧
      (rounds.filterMap Round.awaited).Nodup := by
  intro circle r said rounds
  have answered : ∀ x ∈ rounds, x.Answered := by decide +kernel
  refine ⟨answered, by decide +kernel, by decide +kernel, ?_⟩
  exact (asked_once r "circle" (List.replicate 9 said) answered).1

end Registry
end Counsel
