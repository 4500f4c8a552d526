import Counsel.Proofs.Dialogue.Identity
import Mathlib.Data.List.Induction

/-!
The error on view, and the turn that it tells of.

`Controller.ErrorChange` says what an operation does to the error: it comes with the failure of the
turn that is waited for, and goes when a message is sent or the draft is replaced
(`Controller.clearsError`). Nothing else touches it. So no error is on view while a turn is waited
for, and one that is on view is that of the last turn.

* `error_tells_of_last_turn`: in every run, which failure an error is from, and how long it stays.
-/

namespace Counsel.Dialogue

namespace Controller

variable {c c' : Controller} {op : Operation} {ticket : Ticket} {failure : Failure}

/-- Whether an operation clears the error: a message is sent, or the draft is replaced, by a
navigation to another place or by a save. -/
def clearsError (c : Controller) : Operation → Bool
  | .submit => c.canSubmit
  | op => c.replacesDraft op

/-- Whether an operation brings the outcome of the turn that is waited for. -/
def endsTurn (c : Controller) : Operation → Bool
  | .complete ticket _ => c.sending.any (·.ticket = ticket)
  | _ => false

/-- A failure under a ticket puts the apology for it at the end of a conversation. -/
def Apologises (c : Controller) (ticket : Ticket) (failure : Failure) : Prop :=
  ∃ place prior, c.store.messages? place = some prior ∧
    (c.complete ticket (.error failure)).1.store.messages? place =
      some (prior ++ [.assistant turnApology])

/-- What an operation does to the error. -/
inductive ErrorChange (c c' : Controller) : Operation → Prop where
  | kept {op : Operation} (quiet : c.clearsError op = false) (error : c'.error = c.error) :
      ErrorChange c c' op
  | cleared {op : Operation} (clears : c.clearsError op = true) (error : c'.error = none) :
      ErrorChange c c' op
  /-- The turn that is waited for failed. -/
  | told {p : PendingTurn} {failure : Failure} (waited : c.sending = some p)
      (error : c'.error = some failure.message) (ended : c'.sending = none) :
      ErrorChange c c' (.complete p.ticket (.error failure))

/-- The outcome of a turn tells of an error if it is a failure and the turn was not given up. -/
theorem completeTurn_error (c : Controller) (p : PendingTurn) (outcome : Outcome) :
    (c.completeTurn p outcome).1.error = c.error ∨
      ∃ failure, outcome = .error failure ∧
        (c.completeTurn p outcome).1.error = some failure.message := by
  unfold completeTurn
  split
  · exact Or.inl rfl
  · simp only
    split <;> exact Or.inl rfl
  · exact Or.inr ⟨_, rfl, rfl⟩

theorem errorChange_navigate (c : Controller) (dest : Navigation) (stamp : Stamp) :
    ErrorChange c (c.after (.navigate dest stamp)) (.navigate dest stamp) := by
  by_cases stays : dest.normalise = c.navigation
  · refine .kept (by simp [clearsError, replacesDraft, stays]) ?_
    rw [after_navigate_of_stays stamp stays]
  · refine .cleared (by simp [clearsError, replacesDraft, stays]) ?_
    simp only [after, perform_navigate stamp stays]
    split
    · rfl
    · rw [ensureOpener_error]
      rfl

theorem errorChange_complete (c : Controller) (ticket : Ticket) (outcome : Outcome) :
    ErrorChange c (c.after (.complete ticket outcome)) (.complete ticket outcome) := by
  simp only [after, perform]
  rcases c.complete_cases ticket outcome with ⟨p, -, -, result⟩ | ⟨p, waited, rfl, result⟩ | result
  · obtain ⟨_, _, _, frame⟩ := c.completeOpener_frame p outcome
    rw [result, frame]
    exact .kept rfl rfl
  · obtain ⟨_, _, _, frame⟩ := c.completeTurn_frame p outcome
    rw [result]
    rcases c.completeTurn_error p outcome with same | ⟨failure, rfl, error⟩
    · exact .kept rfl same
    · refine .told waited error ?_
      rw [frame]
  · rw [result]
    exact .kept rfl rfl

/-- Whatever an operation does to the error is one of the cases of `ErrorChange`. -/
theorem errorChange (c : Controller) (op : Operation) : ErrorChange c (c.after op) op := by
  cases op with
  | ensureOpener => exact .kept rfl c.ensureOpener_error
  | navigate dest stamp => exact c.errorChange_navigate dest stamp
  | setInput text => exact .kept rfl rfl
  | submit =>
      by_cases can : c.canSubmit = true
      · refine .cleared can ?_
        simp only [after, perform, submit, if_pos can]
      · refine .kept (by simpa [clearsError] using can) ?_
        simp only [after, perform, submit, if_neg can]
  | complete ticket outcome => exact c.errorChange_complete ticket outcome
  | save stamp =>
      by_cases content : c.store.draft.hasContent = true
      · refine .cleared content ?_
        simp only [after, perform, save, if_pos content]
      · refine .kept (by simpa [clearsError, replacesDraft] using content) ?_
        simp only [after, perform, save, if_neg content]
  | select selection => exact .kept rfl (ensureOpener_error _)
  | delete id => exact .kept rfl (ensureOpener_error _)
  | rename id title => exact .kept rfl rfl

/-- No turn comes to be waited for where no message is sent. -/
theorem sending_of_quiet (quiet : c.clearsError op = false) (idle : c.sending = none) :
    (c.after op).sending = none := by
  rw [Option.eq_none_iff_forall_not_mem]
  intro p waited
  rcases sending_after waited with ⟨q, before, -⟩ | ⟨rfl, o, sent, -⟩
  · rw [idle] at before
    cases before
  · obtain ⟨can, -⟩ := sent_submit.mp sent
    have cannot : c.canSubmit = false := quiet
    rw [cannot] at can
    cases can

/-- While a turn is waited for, no error is on view. -/
def Silent (c : Controller) : Prop := c.sending ≠ none → c.error = none

theorem Silent.after (silent : c.Silent) (op : Operation) : (c.after op).Silent := by
  intro waits
  cases c.errorChange op with
  | kept quiet error =>
      rw [error]
      apply silent
      intro idle
      exact waits (sending_of_quiet quiet idle)
  | cleared _ error => exact error
  | told _ _ ended => exact absurd ended waits

/-- An error stays until something clears it. -/
theorem error_of_quiet {text : String} (quiet : c.clearsError op = false)
    (shown : c.error = some text ∧ c.sending = none) :
    (c.after op).error = some text ∧ (c.after op).sending = none := by
  obtain ⟨error, idle⟩ := shown
  refine ⟨?_, sending_of_quiet quiet idle⟩
  cases c.errorChange op with
  | kept _ same => rw [same, error]
  | cleared clears _ =>
      rw [quiet] at clears
      cases clears
  | told waited _ _ =>
      rw [idle] at waited
      cases waited

/-- The apology for a turn comes with the error, and ends the wait. -/
theorem Apologises.error (apologises : c.Apologises ticket failure) :
    (c.complete ticket (.error failure)).1.error = some failure.message ∧
      (c.complete ticket (.error failure)).1.sending = none := by
  obtain ⟨place, prior, read, after⟩ := apologises
  -- A conversation that stays as it was has no message more.
  have longer : c.store.messages? place ≠ some (prior ++ [.assistant turnApology]) := by
    rw [read]
    simp
  rcases c.complete_cases ticket (.error failure) with
    ⟨p, -, -, result⟩ | ⟨p, -, -, result⟩ | result
  · rw [result] at after
    by_cases wanted : c.stillWants p = true
    · rw [completeOpener_of_wanted wanted] at after
      simp only [Store.messages?_append] at after
      split at after
      · rename_i current
        subst current
        rw [read] at after
        simp [Message.assistant, openerText, openerApology, turnApology] at after
      · exact absurd after longer
    · rw [completeOpener_of_unwanted wanted] at after
      exact absurd after longer
  · rw [result] at after ⊢
    cases meant : p.target with
    | none =>
        rw [completeTurn_store, meant] at after
        exact absurd after longer
    | some target => simp [completeTurn, meant]
  · rw [result] at after
    exact absurd after longer

end Controller

namespace Trail

variable {t : Trail} {ops : List Operation}

/-- Nothing along a run clears the error. -/
def Quiet (t : Trail) (ops : List Operation) : Prop :=
  t.Along (fun u op => u.controller.clearsError op = false) ops

instance (t : Trail) (ops : List Operation) : Decidable (t.Quiet ops) :=
  inferInstanceAs (Decidable (t.Along (fun u op => u.controller.clearsError op = false) ops))

/-- No turn that is waited for comes back along a run. -/
def Unanswered (t : Trail) (ops : List Operation) : Prop :=
  t.Along (fun u op => u.controller.endsTurn op = false) ops

theorem silent_run (silent : t.controller.Silent) (ops : List Operation) :
    (t.run ops).controller.Silent :=
  run_keeps (fun _ op silent => silent.after op) silent ops

/-- An error that came along a run is that of a turn, which failed, was the last to come back, and
was followed by nothing that clears the error. -/
theorem exists_failure_of_error (silent : t.controller.Silent) (clean : t.controller.error = none)
    {text : String} (shown : (t.run ops).controller.error = some text) :
    ∃ before ticket failure after, ops = before ++ .complete ticket (.error failure) :: after ∧
      failure.message = text ∧ (∃ p ∈ (t.run before).controller.sending, p.ticket = ticket) ∧
      ((t.run before).next (.complete ticket (.error failure))).Quiet after ∧
      ((t.run before).next (.complete ticket (.error failure))).Unanswered after := by
  induction ops using List.reverseRecOn with
  | nil =>
      rw [run_nil, clean] at shown
      cases shown
  | append_singleton ops op ih =>
      rw [run_concat, next] at shown
      cases (t.run ops).controller.errorChange op with
      | kept quiet error =>
          rw [error] at shown
          have idle : (t.run ops).controller.sending = none := by
            by_contra waits
            rw [silent_run silent ops waits] at shown
            cases shown
          obtain ⟨before, ticket, failure, after, rfl, same, waited, still, unanswered⟩ := ih shown
          rw [run_append, run_cons] at quiet idle
          have unended : (((t.run before).next (.complete ticket (.error failure))).run
              after).controller.endsTurn op = false := by
            cases op <;> simp [Controller.endsTurn, idle]
          exact ⟨before, ticket, failure, after ++ [op], by simp, same, waited,
            along_concat.mpr ⟨still, quiet⟩, along_concat.mpr ⟨unanswered, unended⟩⟩
      | cleared _ error =>
          rw [error] at shown
          cases shown
      | @told p failure waited error _ =>
          rw [error] at shown
          exact ⟨ops, p.ticket, failure, [], rfl, Option.some.inj shown, ⟨p, waited, rfl⟩,
            trivial, trivial⟩

/-- **An error tells of the last turn.** In every run: while a turn is waited for, no error is on
view. An error that is on view is that of the last turn that came back, which failed, and since then
no message was sent, and the draft was not replaced. And the error of a turn that the apology came
for stays on view, whatever else happens, until one of these. -/
theorem error_tells_of_last_turn (tool : Tool) (axis : Option String) (ops : List Operation) :
    let t := start tool axis
    let now := (t.run ops).controller
    (now.sending ≠ none → now.error = none) ∧
      (∀ text, now.error = some text →
        ∃ before ticket failure after, ops = before ++ .complete ticket (.error failure) :: after ∧
          failure.message = text ∧ (∃ p ∈ (t.run before).controller.sending, p.ticket = ticket) ∧
          ((t.run before).next (.complete ticket (.error failure))).Quiet after ∧
          ((t.run before).next (.complete ticket (.error failure))).Unanswered after) ∧
      ∀ before ticket failure after, ops = before ++ .complete ticket (.error failure) :: after →
        (t.run before).controller.Apologises ticket failure →
        ((t.run before).next (.complete ticket (.error failure))).Quiet after →
        now.error = some failure.message := by
  intro t now
  have silent : t.controller.Silent := fun _ => rfl
  refine ⟨silent_run silent ops, fun text shown => exists_failure_of_error silent rfl shown, ?_⟩
  rintro before ticket failure after rfl apologises quiet
  have kept := run_induction
    (P := fun u => u.controller.error = some failure.message ∧ u.controller.sending = none)
    (fun _ _ shown quiet => Controller.error_of_quiet quiet shown) apologises.error quiet
  have whole : now = (((t.run before).next (.complete ticket (.error failure))).run
      after).controller := by
    simp only [now, run_append, run_cons]
  rw [whole]
  exact kept.1

/-- A turn fails. The opener that comes too late, the same failure once more, a stale reply, a
navigation to where the dialogue is, a look at a session that is not there, and a blank message
leave its error on view. -/
theorem error_tells_of_last_turn_despite_replays :
    let t := start .debrief none
    let failure : Failure := .status 502 "bad gateway"
    let before := [.ensureOpener, .setInput "What now?", .submit]
    let after := [.complete ⟨1⟩ (.ok ⟨"Hello.", none⟩), .complete ⟨2⟩ (.error failure),
      .complete ⟨2⟩ (.ok ⟨"Wait.", none⟩), .navigate ⟨.debrief, some "  "⟩ ⟨⟨1⟩, ⟨0, 0⟩⟩,
      .select (.saved ⟨7⟩), .rename ⟨7⟩ "Lost", .delete ⟨7⟩, .setInput "  ", .submit]
    (t.run before).controller.Apologises ⟨2⟩ failure ∧
      ((t.run before).next (.complete ⟨2⟩ (.error failure))).Quiet after ∧
      (t.run (before ++ .complete ⟨2⟩ (.error failure) :: after)).controller.error =
        some "dialogue service returned 502: bad gateway" := by
  intro t failure before after
  have apologises : (t.run before).controller.Apologises ⟨2⟩ failure :=
    ⟨.current, [.user "What now?"], by decide, by decide⟩
  have quiet : ((t.run before).next (.complete ⟨2⟩ (.error failure))).Quiet after := by decide
  refine ⟨apologises, quiet, ?_⟩
  exact (error_tells_of_last_turn .debrief none _).2.2 before ⟨2⟩ failure after rfl apologises quiet

end Trail
end Counsel.Dialogue
