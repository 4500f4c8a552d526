import Counsel.Proofs.Dialogue.Coherent
import Counsel.Proofs.Dialogue.Tickets

/-!
Outcomes that come in either order.

An opener and a turn may be on their way at once. Neither outcome reads what the other one writes:
a turn for the draft has made a conversation of it, and an opener is then dropped in both orders; a
turn for a saved session touches nothing that the opener looks at
(`Controller.Coherent.stillWants_completeTurn`). What is left is the catalogue of axes, where the
later one that brings one has the last word (`Controller.complete_catalogue`).

* `outcomes_commute`: both orders apply the same outcomes and end in the same state, up to the
  catalogue if both brought one.
-/

namespace Counsel

/-- An opener and a reply to a saved session come to different lists. -/
theorem Store.append_saved_append_current (store : Store) (id : SessionId)
    (reply opener : Message) :
    (store.append (.saved id) reply).append .current opener =
      (store.append .current opener).append (.saved id) reply := rfl

namespace Dialogue

namespace Controller

variable {c : Controller} {p : PendingOpener} {q : PendingTurn}

/-- Whether an opener has its place does not hang on a reply that comes first. -/
theorem Coherent.stillWants_completeTurn (coherent : c.Coherent) (waited : q ∈ c.sending)
    (outcome : Outcome) :
    (c.completeTurn q outcome).1.stillWants p = c.stillWants p := by
  have content := coherent.hasContent_completeTurn waited outcome
  have stored := c.completeTurn_store q outcome
  obtain ⟨store, axes, error, frame⟩ := c.completeTurn_frame q outcome
  rw [frame] at content stored ⊢
  -- A message of the assistant leaves the view, the key and what is saved for it.
  have view : store.selection = c.store.selection ∧ store.draft.key = c.store.draft.key ∧
      ∀ key, store.hasSaved key = c.store.hasSaved key := by
    cases meant : q.target with
    | none =>
        rw [meant] at stored
        subst stored
        exact ⟨rfl, rfl, fun _ => rfl⟩
    | some target =>
        rw [meant] at stored
        subst stored
        exact ⟨Store.selection_append _ _ _, Store.draft_key_append _ _ _,
          Store.hasSaved_append _ _ _⟩
  obtain ⟨selection, key, saved⟩ := view
  simp only at content
  simp only [stillWants, wantsOpener, selection, key, saved, content]

/-- The catalogue after an outcome is the one it brought, or else the one there was; and an outcome
brings the one it carries if it is applied, and none if not. -/
theorem complete_catalogue (c : Controller) (ticket : Ticket) (outcome : Outcome) :
    (c.complete ticket outcome).1.axes = (c.complete ticket outcome).2.axes.getD c.axes ∧
      (c.complete ticket outcome).2.axes =
        if (c.complete ticket outcome).2.applied then axesOf outcome else none := by
  rcases c.complete_cases ticket outcome with ⟨p, -, -, result⟩ | ⟨q, -, -, result⟩ | result
  · rw [result]
    simp only [completeOpener]
    split
    · exact ⟨rfl, rfl⟩
    · exact ⟨rfl, rfl⟩
  · rw [result]
    unfold completeTurn
    split
    · exact ⟨rfl, rfl⟩
    · simp only
      split
      · exact ⟨rfl, rfl⟩
      · exact ⟨rfl, rfl⟩
    · exact ⟨rfl, rfl⟩
  · rw [result]
    exact ⟨rfl, rfl⟩

/-- Where two outcomes do the same in either order, the catalogue is the same too, unless both are
applied and both bring one. -/
theorem catalogue_commutes {one other : Ticket} {first second : Outcome}
    (same : ((c.complete other second).1.complete one first).2 = (c.complete one first).2)
    (same' : ((c.complete one first).1.complete other second).2 = (c.complete other second).2)
    (notBoth : ¬ ((c.complete one first).2.applied = true ∧
      (c.complete other second).2.applied = true ∧ (axesOf first).isSome = true ∧
      (axesOf second).isSome = true)) :
    ((c.complete other second).1.complete one first).1.axes =
      ((c.complete one first).1.complete other second).1.axes := by
  obtain ⟨oneAxes, carried⟩ := c.complete_catalogue one first
  obtain ⟨otherAxes, carried'⟩ := c.complete_catalogue other second
  have last := ((c.complete other second).1.complete_catalogue one first).1
  have last' := ((c.complete one first).1.complete_catalogue other second).1
  rw [same, otherAxes] at last
  rw [same', oneAxes] at last'
  rw [last, last']
  cases brought : (c.complete one first).2.axes with
  | none => rfl
  | some axes =>
      cases brought' : (c.complete other second).2.axes with
      | none => rfl
      | some axes' =>
          rw [brought, eq_comm, Option.ite_none_right_eq_some] at carried
          rw [brought', eq_comm, Option.ite_none_right_eq_some] at carried'
          exact absurd ⟨carried.1, carried'.1, Option.isSome_of_mem carried.2,
            Option.isSome_of_mem carried'.2⟩ notBoth

/-- A reply does not hang on which opener is waited for. -/
theorem completeTurn_of_dropped (c : Controller) (q : PendingTurn) (answer : Outcome) :
    ({ c with opener := none } : Controller).completeTurn q answer =
      ({ (c.completeTurn q answer).1 with opener := none }, (c.completeTurn q answer).2) := by
  unfold completeTurn
  split
  · rfl
  · simp only
    split <;> rfl
  · rfl

/-- The opener and the turn that are waited for, taken one after the other, come to the same, up to
the catalogue. -/
theorem Coherent.completeTurn_completeOpener (coherent : c.Coherent) (waited : q ∈ c.sending)
    (greeting answer : Outcome) :
    ((c.completeOpener p greeting).1.completeTurn q answer).2 = (c.completeTurn q answer).2 ∧
      ((c.completeTurn q answer).1.completeOpener p greeting).2 =
        (c.completeOpener p greeting).2 ∧
      ∃ axes, ((c.completeTurn q answer).1.completeOpener p greeting).1 =
        { ((c.completeOpener p greeting).1.completeTurn q answer).1 with axes := axes } := by
  have place := coherent.stillWants_completeTurn (p := p) waited answer
  by_cases wanted : c.stillWants p = true
  · -- The draft is empty, so the reply is not for it.
    obtain ⟨-, -, wants⟩ := stillWants_iff.mp wanted
    obtain ⟨-, empty, -, -⟩ := wantsOpener_iff.mp wants
    rw [completeOpener_of_wanted wanted, completeOpener_of_wanted (place.trans wanted)]
    cases meant : q.target with
    | none =>
        simp only [completeTurn, meant]
        exact ⟨trivial, trivial, _, rfl⟩
    | some target =>
        cases target with
        | current =>
            rw [coherent.turn q waited meant] at empty
            cases empty
        | saved id =>
            have untouched : ∀ m : Message, (c.store.append .current m).holds (.saved id) =
                c.store.holds (.saved id) := fun _ => rfl
            cases answer with
            | error failure =>
                simp only [completeTurn, meant, Store.append_saved_append_current]
                exact ⟨trivial, trivial, _, rfl⟩
            | ok reply =>
                by_cases held : c.store.holds (.saved id) = true
                · simp only [completeTurn, meant, untouched, held, if_true,
                    Store.append_saved_append_current]
                  exact ⟨trivial, trivial, _, rfl⟩
                · simp only [completeTurn, meant, untouched, if_neg held]
                  exact ⟨trivial, trivial, _, rfl⟩
  · rw [completeOpener_of_unwanted wanted,
      completeOpener_of_unwanted (fun still => wanted (place.symm.trans still))]
    simp only [completeTurn_of_dropped]
    exact ⟨trivial, trivial, _, rfl⟩

end Controller

namespace Trail

variable {p : PendingOpener} {q : PendingTurn}

/-- **Outcomes commute.** Where an opener and a turn are waited for, their outcomes do the same in
either order, and leave the same state but for the catalogue of axes; that is the same too, unless
both were applied and both brought one. -/
theorem outcomes_commute (tool : Tool) (axis : Option String) (ops : List Operation)
    (opener : p ∈ ((start tool axis).run ops).controller.opener)
    (turn : q ∈ ((start tool axis).run ops).controller.sending) (greeting answer : Outcome) :
    let c := ((start tool axis).run ops).controller
    let opened := c.complete p.ticket greeting
    let thenAnswered := opened.1.complete q.ticket answer
    let answered := c.complete q.ticket answer
    let thenOpened := answered.1.complete p.ticket greeting
    thenOpened.2 = opened.2 ∧ thenAnswered.2 = answered.2 ∧
      (∃ axes, thenOpened.1 = { thenAnswered.1 with axes := axes }) ∧
      (¬ (opened.2.applied = true ∧ answered.2.applied = true ∧
          (Controller.axesOf greeting).isSome = true ∧ (Controller.axesOf answer).isSome = true) →
        thenOpened.1.axes = thenAnswered.1.axes) := by
  intro c opened thenAnswered answered thenOpened
  have coherent : c.Coherent := coherent_run tool axis ops
  have differ : p.ticket ≠ q.ticket := waited_tickets_differ tool axis ops p opener q turn
  have first : opened = c.completeOpener p greeting :=
    Controller.complete_of_opener opener rfl greeting
  have second : answered = c.completeTurn q answer := by
    refine Controller.complete_of_turn ?_ turn rfl answer
    intro other waited
    cases opener.symm.trans waited
    exact differ
  have alone : opened.1.opener = none ∧ opened.1.sending = some q := by
    obtain ⟨_, _, _, frame⟩ := c.completeOpener_frame p greeting
    rw [first, frame]
    exact ⟨rfl, turn⟩
  have third : thenAnswered = opened.1.completeTurn q answer :=
    Controller.complete_of_turn (by simp [alone.1]) alone.2 rfl answer
  have still : answered.1.opener = some p := by
    obtain ⟨_, _, _, frame⟩ := c.completeTurn_frame q answer
    rw [second, frame]
    exact opener
  have fourth : thenOpened = answered.1.completeOpener p greeting :=
    Controller.complete_of_opener still rfl greeting
  obtain ⟨same, same', same''⟩ :=
    coherent.completeTurn_completeOpener (p := p) turn greeting answer
  rw [← first, ← second, ← third] at same
  rw [← first, ← second, ← fourth] at same'
  rw [← first, ← second, ← third, ← fourth] at same''
  exact ⟨same', same, same'', Controller.catalogue_commutes same' same⟩

/-- An opener for one tool and a reply to a session saved for another come to the same state in
either order. -/
theorem outcomes_commute_across_tools :
    let ops := [.setInput "What now?", .submit, .complete ⟨1⟩ (.ok ⟨"Wait.", none⟩),
      .navigate ⟨.resulting, none⟩ ⟨⟨1⟩, ⟨0, 0⟩⟩, .select (.saved ⟨1⟩), .setInput "And then?",
      .submit, .select .current]
    let c := ((start .debrief none).run ops).controller
    let greeting : Outcome := .ok ⟨"Hello.", some [⟨"pace", "Pace"⟩]⟩
    let answer : Outcome := .ok ⟨"Go on.", none⟩
    ⟨⟨2⟩, ⟨.resulting, none⟩, 1⟩ ∈ c.opener ∧ ⟨⟨3⟩, some (.saved ⟨1⟩)⟩ ∈ c.sending ∧
      (c.complete ⟨2⟩ greeting).2.applied = true ∧ (c.complete ⟨3⟩ answer).2.applied = true ∧
      ((c.complete ⟨3⟩ answer).1.complete ⟨2⟩ greeting).1 =
        ((c.complete ⟨2⟩ greeting).1.complete ⟨3⟩ answer).1 := by
  intro ops c greeting answer
  have opener : ⟨⟨2⟩, ⟨.resulting, none⟩, 1⟩ ∈ c.opener := by decide
  have turn : ⟨⟨3⟩, some (.saved ⟨1⟩)⟩ ∈ c.sending := by decide
  refine ⟨opener, turn, by decide, by decide, ?_⟩
  obtain ⟨-, -, ⟨axes, rest⟩, last⟩ :=
    outcomes_commute .debrief none ops opener turn greeting answer
  have same := last (by simp [answer, Controller.axesOf])
  rw [rest] at same ⊢
  rw [show axes = _ from same]

end Trail
end Dialogue
end Counsel
