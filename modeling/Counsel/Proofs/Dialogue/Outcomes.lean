import Counsel.Proofs.Dialogue.Tickets

/-!
What an outcome does to the conversations, and what is said of it.

`Store.Gains` says that one message of the assistant came to one conversation. `Controller.Effect`
has the three things that can come of an outcome: a conversation gains a message; nothing changes
but what is waited for; or a failure is told of although its conversation is gone.

* `applied_iff_gains`: an outcome counts as applied exactly if a conversation gained a message, and
  one that does not count leaves everything as it was. The failure of a turn whose session was
  deleted is the exception: it counts as applied, and its error is shown.
* `failure_after_deletion_reported`: a run to that exception, where a reply would have been dropped
  silently.
-/

namespace Counsel

namespace Store

variable {store : Store} {place : Selection} {prior : List Message}

/-- One message of the assistant came to the end of one conversation, and all else is as it was. -/
def Gains (store store' : Store) : Prop :=
  ∃ place prior text, store.messages? place = some prior ∧
    store' = store.append place (.assistant text) ∧
    ∀ s, store'.messages? s =
      if s = place then some (prior ++ [.assistant text]) else store.messages? s

theorem gains_append (read : store.messages? place = some prior) (text : String) :
    store.Gains (store.append place (.assistant text)) :=
  ⟨place, prior, text, read, rfl, messages?_append_of_read read _⟩

/-- A store that stays as it is gains nothing. -/
theorem not_gains_self (store : Store) : ¬ store.Gains store := by
  rintro ⟨place, prior, text, read, -, after⟩
  have longer := after place
  rw [read, if_pos rfl] at longer
  simp at longer

end Store

namespace Dialogue

namespace Controller

variable {c : Controller} {ticket : Ticket} {outcome : Outcome} {failure : Failure}

/-- Under the ticket a turn is waited for whose conversation is gone: a session that was deleted. -/
def Lost (c : Controller) (ticket : Ticket) : Prop :=
  ∃ p ∈ c.sending, p.ticket = ticket ∧
    ∃ place, p.target = some place ∧ c.store.messages? place = none

/-- What can come of an outcome. -/
inductive Effect (c : Controller) (ticket : Ticket) : Outcome → Controller × Completion → Prop where
  /-- It is applied: a message comes to a conversation. -/
  | applied {outcome : Outcome} {c' : Controller} {axes : Option (List Axis)}
      (gains : c.store.Gains c'.store) : Effect c ticket outcome (c', ⟨true, axes⟩)
  /-- It is dropped: nothing changes but what is waited for. -/
  | dropped {outcome : Outcome} (opener : Option PendingOpener) (sending : Option PendingTurn) :
      Effect c ticket outcome ({ c with opener := opener, sending := sending }, ⟨false, none⟩)
  /-- A failure is told of, though there is no conversation for the apology. -/
  | reported {failure : Failure} (lost : c.Lost ticket) :
      Effect c ticket (.error failure)
        ({ c with sending := none, error := some failure.message }, ⟨true, none⟩)

theorem effect_completeOpener (c : Controller) (p : PendingOpener) (outcome : Outcome) :
    Effect c p.ticket outcome (c.completeOpener p outcome) := by
  by_cases wanted : c.stillWants p = true
  · have read : c.store.messages? .current = some c.store.draft.messages := rfl
    rw [completeOpener_of_wanted wanted]
    exact .applied (Store.gains_append read (openerText outcome))
  · rw [completeOpener_of_unwanted wanted]
    exact .dropped none c.sending

/-- The failure of a turn is told of whether its conversation is there or not. -/
theorem completeTurn_failed {p : PendingTurn} {target : Selection}
    (meant : p.target = some target) (gone : c.store.messages? target = none) :
    c.completeTurn p (.error failure) =
      ({ c with sending := none, error := some failure.message }, ⟨true, none⟩) := by
  simp only [completeTurn, meant, Store.append_of_not_held gone]

theorem effect_completeTurn {p : PendingTurn} (waited : p ∈ c.sending) (outcome : Outcome) :
    Effect c p.ticket outcome (c.completeTurn p outcome) := by
  cases meant : p.target with
  | none =>
      simp only [completeTurn, meant]
      exact .dropped c.opener none
  | some target =>
      cases read : c.store.messages? target with
      | some prior =>
          have held : c.store.holds target = true := by
            rw [Store.holds_eq_isSome_messages?, read]
            rfl
          cases outcome with
          | ok reply =>
              simp only [completeTurn, meant, held, if_true]
              exact .applied (Store.gains_append read _)
          | error failure =>
              simp only [completeTurn, meant]
              exact .applied (Store.gains_append read _)
      | none =>
          have gone : ¬ c.store.holds target = true := by
            rw [Store.holds_eq_isSome_messages?, read]
            simp
          cases outcome with
          | ok reply =>
              simp only [completeTurn, meant, if_neg gone]
              exact .dropped c.opener none
          | error failure =>
              rw [completeTurn_failed meant read]
              exact .reported ⟨p, waited, rfl, target, meant, read⟩

/-- Whatever comes of an outcome is one of the cases of `Effect`. -/
theorem effect (c : Controller) (ticket : Ticket) (outcome : Outcome) :
    Effect c ticket outcome (c.complete ticket outcome) := by
  rcases c.complete_cases ticket outcome with
    ⟨p, -, rfl, result⟩ | ⟨p, waited, rfl, result⟩ | result
  · rw [result]
    exact c.effect_completeOpener p outcome
  · rw [result]
    exact effect_completeTurn waited outcome
  · rw [result]
    exact .dropped c.opener c.sending

/-- Where no failure comes too late for its conversation, an outcome is applied exactly if a
conversation gains a message. -/
theorem applied_iff_of_not_lost (kept : ∀ failure, outcome = .error failure → ¬ c.Lost ticket) :
    (c.complete ticket outcome).2.applied = true ↔
      c.store.Gains (c.complete ticket outcome).1.store := by
  have effect := c.effect ticket outcome
  generalize c.complete ticket outcome = result at effect ⊢
  cases effect with
  | applied gains => exact ⟨fun _ => gains, fun _ => rfl⟩
  | dropped opener sending =>
      constructor
      · intro applied
        cases applied
      · intro gains
        exact absurd gains c.store.not_gains_self
  | reported lost => exact absurd lost (kept _ rfl)

/-- What is not applied brings no catalogue and changes nothing but what is waited for. -/
theorem complete_of_not_applied (dropped : (c.complete ticket outcome).2.applied = false) :
    (c.complete ticket outcome).2.axes = none ∧
      ∃ opener sending,
        (c.complete ticket outcome).1 = { c with opener := opener, sending := sending } := by
  have effect := c.effect ticket outcome
  generalize c.complete ticket outcome = result at effect dropped ⊢
  cases effect with
  | applied gains => cases dropped
  | dropped opener sending => exact ⟨rfl, opener, sending, rfl⟩
  | reported lost => cases dropped

end Controller

namespace Trail

/-- **Applied means that a message came.** In every reachable dialogue, an outcome is applied
exactly if one message of the assistant came to one conversation; if it is not, it brings no
catalogue, and nothing changes but what is waited for: no conversation, nor the selection, the
input, the error or the catalogue. The one exception is a failure that comes when the session of its
turn was deleted: it counts as applied and its error is shown, though no message comes. -/
theorem applied_iff_gains (tool : Tool) (axis : Option String) (ops : List Operation)
    (ticket : Ticket) (outcome : Outcome) :
    let c := ((start tool axis).run ops).controller
    let result := c.complete ticket outcome
    ((∀ failure, outcome = .error failure → ¬ c.Lost ticket) →
        (result.2.applied = true ↔ c.store.Gains result.1.store)) ∧
      (result.2.applied = false → result.2.axes = none ∧
        ∃ opener sending, result.1 = { c with opener := opener, sending := sending }) ∧
      ∀ failure, outcome = .error failure → c.Lost ticket →
        result = ({ c with sending := none, error := some failure.message }, ⟨true, none⟩) := by
  intro c result
  refine ⟨Controller.applied_iff_of_not_lost, Controller.complete_of_not_applied, ?_⟩
  rintro failure rfl ⟨p, waited, same, target, meant, gone⟩
  have noOpener : ∀ q ∈ c.opener, q.ticket ≠ ticket := by
    intro q opened shared
    exact waited_tickets_differ tool axis ops q opened p waited (shared.trans same.symm)
  rw [← Controller.completeTurn_failed meant gone]
  exact Controller.complete_of_turn noOpener waited same _

/-- The session of a turn is deleted before its outcome comes. A reply is dropped without a word;
a failure counts as applied and its error is shown, though no conversation gains a message. -/
theorem failure_after_deletion_reported :
    let t := (start .debrief none).run [.setInput "What now?", .submit,
      .navigate ⟨.resulting, none⟩ ⟨⟨1⟩, ⟨0, 0⟩⟩, .delete ⟨1⟩]
    let c := t.controller
    let replied := c.complete ⟨1⟩ (.ok ⟨"Wait.", none⟩)
    let failed := c.complete ⟨1⟩ (.error (.status 502 "bad gateway"))
    t.Reachable ∧ c.Lost ⟨1⟩ ∧ c.error = none ∧
      replied = ({ c with sending := none }, ⟨false, none⟩) ∧
      failed.2.applied = true ∧ ¬ c.store.Gains failed.1.store ∧
      failed.1.error = some "dialogue service returned 502: bad gateway" := by
  intro t c replied failed
  have reached : t.Reachable := (Reachable.opened .debrief none).run (by decide)
  have lost : c.Lost ⟨1⟩ :=
    ⟨⟨⟨1⟩, some (.saved ⟨1⟩)⟩, by decide, rfl, .saved ⟨1⟩, rfl, by decide⟩
  have same : failed.1.store = c.store := by decide
  refine ⟨reached, lost, by decide, by decide, by decide, ?_, by decide⟩
  rw [same]
  exact c.store.not_gains_self

end Trail
end Dialogue
end Counsel
