import Counsel.Dialogue.Snapshot
import Counsel.Proofs.Dialogue.InFlight
import Counsel.Proofs.Dialogue.Openers
import Counsel.Proofs.Dialogue.Outcomes

/-!
What screens are told of, and what they are not.

A screen asks for a snapshot when it is told of a change, so whatever changes on view should be told
of. Commands do so; what stands in the input field is the screen's own. An outcome is told of
exactly if it was applied, and one that is dropped may still end a wait that is on view: then the
screen goes on showing the dialogue as busy (`late_opener_untold`).

* `untold_iff`: a change goes untold exactly where a dropped outcome ends the wait on view, and then
  nothing but that changes.
-/

namespace Counsel.Dialogue

/-- Two snapshots show the same, whatever stands in the input field. -/
def Snapshot.Alike (s s' : Snapshot) : Prop := s' = { s with input := s'.input }

instance (s s' : Snapshot) : Decidable (s.Alike s') := by unfold Snapshot.Alike; infer_instance

theorem Snapshot.Alike.of_eq {s s' : Snapshot} (same : s' = s) : s.Alike s' := by
  rw [Alike, same]

theorem Snapshot.Alike.phase_eq {s s' : Snapshot} (alike : s.Alike s') : s'.phase = s.phase :=
  (congrArg Snapshot.phase alike).trans rfl

namespace Controller

variable {c : Controller} {ticket : Ticket} {outcome : Outcome}

theorem snapshot_of_store {store : Store} (draft : store.draft = c.store.draft)
    (saved : store.saved = c.store.saved) (selection : store.selection = c.store.selection) :
    ({ c with store := store } : Controller).snapshot = c.snapshot := by
  have messages : store.activeMessages = c.store.activeMessages := by
    simp only [Store.activeMessages, selection, draft, Store.messages?_congr draft saved]
  have awaits : ({ c with store := store } : Controller).awaitsOpener = c.awaitsOpener := by
    rw [Bool.eq_iff_iff, awaitsOpener_iff, awaitsOpener_iff, draft]
  have shown : ({ c with store := store } : Controller).phase = c.phase := by
    simp only [phase, selection, draft, awaits]
  simp only [snapshot, shown, messages, selection, saved]

/-- Deleting what is not there changes nothing on view, and asks for no opener. -/
theorem snapshot_delete_of_absent (settled : c.Settled) {id : SessionId}
    (absent : c.store.get? id = none) : (c.delete id).1.snapshot = c.snapshot := by
  obtain ⟨saved, selection⟩ := Store.delete_of_absent absent
  have settled' : ({ c with store := c.store.delete id } : Controller).Settled := by
    refine settled.frame ?_ rfl rfl rfl
    intro wanted
    obtain ⟨viewed, empty, unsaved, unfetched⟩ := wantsOpener_iff.mp wanted
    simp only [selection, Store.hasSaved_eq_any, saved] at viewed unsaved
    exact wantsOpener_iff.mpr ⟨viewed, empty, by rwa [Store.hasSaved_eq_any], unfetched⟩
  rw [delete, settled'.ensureOpener_eq]
  exact snapshot_of_store rfl saved selection

/-! ### The wait on view -/

/-- The dialogue shows that it waits for the outcome under a ticket. -/
def Shows (c : Controller) (ticket : Ticket) : Prop :=
  (c.phase = .sending ∧ ∃ p ∈ c.sending, p.ticket = ticket) ∨
    (c.phase = .initializing ∧ ∃ p ∈ c.opener, p.ticket = ticket)

/-- Once no opener is waited for, the dialogue shows something else exactly if it showed that. -/
theorem phase_without_opener :
    ({ c with opener := none } : Controller).phase ≠ c.phase ↔ c.phase = .initializing := by
  have unawaited : ({ c with opener := none } : Controller).awaitsOpener = false := rfl
  simp only [phase, unawaited]
  cases c.sending.isSome with
  | true => simp
  | false =>
      cases c.store.selection with
      | saved id => simp
      | current =>
          cases c.awaitsOpener <;> cases c.store.draft.hasContent <;> simp

/-- A dropped outcome changes what the dialogue is shown to do exactly if it ends the wait on
view. -/
theorem phase_of_dropped (differ : ∀ p ∈ c.opener, ∀ q ∈ c.sending, p.ticket ≠ q.ticket)
    (dropped : (c.complete ticket outcome).2.applied = false) :
    (c.complete ticket outcome).1.phase ≠ c.phase ↔ c.Shows ticket := by
  -- An outcome is looked for among the openers first; `differ` makes the order not matter.
  by_cases opened : ∃ p ∈ c.opener, p.ticket = ticket
  · obtain ⟨p, waited, same⟩ := opened
    have unwanted : ¬ c.stillWants p = true := by
      intro wanted
      rw [complete_of_opener waited same, completeOpener_of_wanted wanted] at dropped
      cases dropped
    rw [complete_of_opener waited same, completeOpener_of_unwanted unwanted, phase_without_opener]
    constructor
    · intro initializing
      exact Or.inr ⟨initializing, p, waited, same⟩
    · rintro (⟨-, q, sending, mine⟩ | ⟨initializing, -⟩)
      · exact absurd (same.trans mine.symm) (differ p waited q sending)
      · exact initializing
  · have opener : ∀ p ∈ c.opener, p.ticket ≠ ticket := fun p waited same =>
      opened ⟨p, waited, same⟩
    by_cases sent : ∃ p ∈ c.sending, p.ticket = ticket
    · obtain ⟨p, waited, same⟩ := sent
      have sending : c.phase = .sending :=
        phase_eq_sending_iff.mpr (Option.isSome_iff_exists.mpr ⟨p, waited⟩)
      obtain ⟨_, _, _, frame⟩ := c.completeTurn_frame p outcome
      rw [complete_of_turn opener waited same, frame, sending]
      refine iff_of_true ?_ (Or.inl ⟨sending, p, waited, same⟩)
      intro still
      simpa using phase_eq_sending_iff.mp still
    · have turn : ∀ p ∈ c.sending, p.ticket ≠ ticket := fun p waited same =>
        sent ⟨p, waited, same⟩
      rw [complete_of_unawaited opener turn]
      refine iff_of_false (fun changed => changed rfl) ?_
      rintro (⟨-, shown⟩ | ⟨-, shown⟩)
      · exact sent shown
      · exact opened shown

end Controller

namespace Actor

variable {a : Actor} {signal : Signal}

/-- A signal that nothing is told of changes nothing on view but the input field, or is an outcome
that is dropped. -/
theorem snapshot_of_untold (settled : a.controller.Settled)
    (untold : (a.receive signal).events = []) :
    a.controller.snapshot.Alike (a.receive signal).actor.controller.snapshot ∨
      ∃ ticket outcome, signal = .finished ticket outcome ∧
        (a.controller.complete ticket outcome).2.applied = false := by
  cases signal with
  | finished ticket outcome =>
      refine Or.inr ⟨ticket, outcome, rfl, ?_⟩
      by_contra applied
      simp [receive, finish, applied] at untold
  | command command stamp =>
      left
      cases command with
      | setInput text => rfl
      | snapshot => rfl
      | idle waiter =>
          refine .of_eq ?_
          simp only [receive, handle]
          split <;> rfl
      | navigate dest => cases untold
      | select selection => cases untold
      | submit =>
          refine .of_eq ?_
          have still : ¬ a.controller.canSubmit = true := by
            intro can
            simp [receive, handle, step, Controller.submit, can] at untold
          simp only [receive, handle, step, dispatch, Controller.submit, if_neg still]
      | save =>
          refine .of_eq ?_
          have empty : ¬ a.controller.store.draft.hasContent = true := by
            intro content
            simp [receive, handle, step, Controller.save, content] at untold
          simp only [receive, handle, step, dispatch, Controller.save, if_neg empty]
      | delete id =>
          have absent : a.controller.store.get? id = none := by
            simpa [receive, handle, step] using untold
          exact .of_eq (Controller.snapshot_delete_of_absent settled absent)
      | rename id title =>
          refine .of_eq ?_
          have absent : a.controller.store.get? id = none := by
            simpa [receive, handle, step] using untold
          simp only [receive, handle, step, dispatch, Controller.rename,
            Store.rename_of_absent absent]

/-- An outcome that is dropped is not told of, and changes nothing on view but what the dialogue is
shown to do. -/
theorem receive_of_dropped {ticket : Ticket} {outcome : Outcome}
    (dropped : (a.controller.complete ticket outcome).2.applied = false) :
    (a.receive (.finished ticket outcome)).events = [] ∧
      (a.receive (.finished ticket outcome)).actor.controller.snapshot =
        { a.controller.snapshot with
          phase := (a.controller.complete ticket outcome).1.phase } := by
  obtain ⟨axes, opener, sending, rest⟩ := Controller.complete_of_not_applied dropped
  constructor
  · simp [receive, finish, dropped, axes]
  · simp only [receive, finish, rest]
    rfl

end Actor

namespace Running

variable {signals : List Signal}

theorem settled_run (navigation : Navigation)
    (legal : Run.Along next Legal (start navigation) signals) :
    ((start navigation).run signals).actor.controller.Settled :=
  Run.keeps (Q := fun r => r.actor.controller.Settled)
    (fun r signal settled _ => r.actor.receive_keeps (fun _ op settled => settled.after op)
      settled signal) (Controller.settled_ensureOpener _) legal

/-- **What goes untold.** In every run, whatever comes next: something on view, other than the input
field, changes without an event exactly if an outcome is dropped under the ticket of the opener or
the turn that the dialogue shows it waits for. Then it does not show that any more, and all else
stays as it was; so every other change is told of. -/
theorem untold_iff (navigation : Navigation)
    (legal : Run.Along next Legal (start navigation) signals) (signal : Signal) :
    let a := ((start navigation).run signals).actor
    let c := a.controller
    let before := c.snapshot
    let after := (a.receive signal).actor.controller.snapshot
    ((a.receive signal).events = [] ∧ ¬ before.Alike after ↔
      ∃ ticket outcome, signal = .finished ticket outcome ∧
        (c.complete ticket outcome).2.applied = false ∧ c.Shows ticket) ∧
      ((a.receive signal).events = [] →
        Snapshot.Alike { before with phase := after.phase } after) := by
  intro a c before after
  have settled : c.Settled := settled_run navigation legal
  have differ := (balanced_run navigation legal).tickets_differ
  refine ⟨⟨?_, ?_⟩, ?_⟩
  · rintro ⟨untold, changed⟩
    rcases Actor.snapshot_of_untold settled untold with same | ⟨ticket, outcome, rfl, dropped⟩
    · exact absurd same changed
    · refine ⟨ticket, outcome, rfl, dropped, (Controller.phase_of_dropped differ dropped).mp ?_⟩
      intro still
      have same := (Actor.receive_of_dropped dropped).2
      rw [still] at same
      exact changed (.of_eq same)
  · rintro ⟨ticket, outcome, rfl, dropped, shown⟩
    obtain ⟨untold, same⟩ := Actor.receive_of_dropped dropped
    refine ⟨untold, ?_⟩
    intro alike
    have moved := (Controller.phase_of_dropped differ dropped).mpr shown
    have still : after.phase = before.phase := alike.phase_eq
    simp only [after, a, same] at still
    exact moved still
  · intro untold
    rcases Actor.snapshot_of_untold settled untold with same | ⟨ticket, outcome, rfl, dropped⟩
    · have still : after.phase = before.phase := same.phase_eq
      rw [still]
      exact same
    · simp only [after, (Actor.receive_of_dropped dropped).2, before, c, a]
      rfl

/-- The session of a turn is deleted before its reply comes: the reply is dropped, and the dialogue
goes on being shown as sending. -/
theorem untold_after_deletion :
    let stamp : Stamp := ⟨⟨1⟩, ⟨0, 0⟩⟩
    let signals : List Signal := [.command (.setInput "What now?") stamp, .command .submit stamp,
      .command (.navigate ⟨.resulting, none⟩) stamp, .command (.delete ⟨1⟩) stamp]
    let signal : Signal := .finished ⟨2⟩ (.ok ⟨"Wait.", none⟩)
    Run.Along next Legal (start ⟨.debrief, none⟩) (signals ++ [signal]) ∧
      (((start ⟨.debrief, none⟩).run signals).actor.receive signal).events = [] ∧
      ¬ ((start ⟨.debrief, none⟩).run signals).actor.controller.snapshot.Alike
        (((start ⟨.debrief, none⟩).run signals).actor.receive signal).actor.controller.snapshot := by
  intro stamp signals signal
  have legal : Run.Along next Legal (start ⟨.debrief, none⟩) signals := by decide
  have dropped : (((start ⟨.debrief, none⟩).run signals).actor.controller.complete ⟨2⟩
      (.ok ⟨"Wait.", none⟩)).2.applied = false := by decide
  have sending : ((start ⟨.debrief, none⟩).run signals).actor.controller.phase = .sending := by
    decide
  have waited : ⟨⟨2⟩, some (.saved ⟨1⟩)⟩ ∈
      ((start ⟨.debrief, none⟩).run signals).actor.controller.sending := by decide
  obtain ⟨untold, -⟩ := untold_iff ⟨.debrief, none⟩ legal signal
  exact ⟨by decide, untold.mpr ⟨⟨2⟩, _, rfl, dropped, Or.inl ⟨sending, _, waited, rfl⟩⟩⟩

/-- The user speaks before the opener comes, and the opener comes after the reply. It is dropped,
the dialogue is not busy any more, and no screen is told. -/
theorem late_opener_untold :
    let stamp : Stamp := ⟨⟨1⟩, ⟨0, 0⟩⟩
    let signals : List Signal := [.command (.setInput "What now?") stamp, .command .submit stamp,
      .finished ⟨2⟩ (.ok ⟨"Wait.", none⟩)]
    let signal : Signal := .finished ⟨1⟩ (.ok ⟨"Hello.", none⟩)
    let t := start ⟨.debrief, none⟩
    let a := (t.run signals).actor
    Run.Along next Legal t signals ∧ (t.run signals).Legal signal ∧
      (a.receive signal).events = [] ∧ a.controller.snapshot.phase = .initializing ∧
      (a.receive signal).actor.controller.snapshot.phase = .active := by
  decide

end Running
end Counsel.Dialogue
