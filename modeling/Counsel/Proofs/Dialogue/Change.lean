import Counsel.Proofs.Dialogue.Operation
import Counsel.Proofs.Session.Store

/-!
What an operation does to the conversations of a dialogue and to the turn that is waited for.

`Change` has one case for each thing that can happen, with all that holds where it happens, and
`change` is the one place where the operations are taken apart: what follows about conversations
is by cases on it.

* Openers never touch a draft with a conversation (`Change.greet`).
* A reply goes to the target of the turn that is waited for, and to nothing else
  (`Change.answer`).
* A draft with a conversation is replaced only when it is saved, or when a session for its key has
  exactly its messages (`Change.leave`, `Change.abandon`, `Change.save`); as long as it
  stays, it only grows (`Controller.draft_of_still`).

`follow` is where a conversation stands after an operation. It knows nothing of pending turns: a
saved session stays where it is until it is deleted, and the draft goes on as the session it is
saved as.
-/

namespace Counsel.Dialogue

/-- The turn, meant for another place if it was meant for the draft. -/
def PendingTurn.redirect (p : PendingTurn) (dest : Option Selection) : PendingTurn :=
  if p.target = some .current then { p with target := dest } else p

@[simp] theorem PendingTurn.redirect_ticket (p : PendingTurn) (dest : Option Selection) :
    (p.redirect dest).ticket = p.ticket := by
  unfold redirect
  split <;> rfl

theorem PendingTurn.redirect_target (p : PendingTurn) (dest : Option Selection) :
    (p.redirect dest).target = if p.target = some .current then dest else p.target := by
  unfold redirect
  split <;> rfl

/-- No reply is meant for a draft after it was given up or saved. -/
theorem PendingTurn.redirect_target_ne (p : PendingTurn) {dest : Option Selection}
    (elsewhere : dest ≠ some .current) : (p.redirect dest).target ≠ some .current := by
  rw [redirect_target]
  split <;> assumption

/-- The text that an outcome adds to a conversation as the reply to a message. -/
def replyText : Outcome → String
  | .ok reply => reply.text
  | .error _ => turnApology

namespace Controller

/-- Whether an operation starts a new draft in place of the one there is. -/
def replacesDraft (c : Controller) : Operation → Bool
  | .navigate dest _ => dest.normalise ≠ c.navigation
  | .save _ => c.store.draft.hasContent
  | _ => false

/-- Where a conversation stands after an operation, if it is still there. -/
def follow (c : Controller) (op : Operation) : Selection → Option Selection
  | .current =>
      if c.replacesDraft op then (c.created op).map (.saved ·.id) else some .current
  | .saved id =>
      match op with
      | .delete gone => if id = gone then none else some (.saved id)
      | _ => some (.saved id)

/-- What can happen to the conversations and to the turn that is waited for. -/
inductive Change (c c' : Controller) : Operation → Prop where
  /-- Nothing, whatever else the operation does. -/
  | keep {op : Operation} (still : c.replacesDraft op = false) (kept : ∀ id, op ≠ .delete id)
      (draft : c'.store.draft = c.store.draft) (saved : c'.store.saved = c.store.saved)
      (sending : c'.sending = c.sending) : Change c c' op
  | delete {id : SessionId} (store : c'.store = c.store.delete id)
      (sending : c'.sending = c.sending) : Change c c' (.delete id)
  | rename {id : SessionId} {title : String} (store : c'.store = c.store.rename id title)
      (sending : c'.sending = c.sending) : Change c c' (.rename id title)
  /-- A message of the user comes to the conversation on view. -/
  | ask (words : ¬ Text.Blank c.input) (free : c.sending = none)
      (store : c'.store = c.store.append c.store.selection (.user c.input))
      (sending : c'.sending = some ⟨c.nextTicket, some c.store.selection⟩) :
      Change c c' .submit
  /-- An opener comes to a draft without a conversation. -/
  | greet {ticket : Ticket} {outcome : Outcome} (waited : ∃ p ∈ c.opener, p.ticket = ticket)
      (empty : c.store.draft.hasContent = false)
      (store : c'.store = c.store.append .current (.assistant (openerText outcome)))
      (sending : c'.sending = c.sending) : Change c c' (.complete ticket outcome)
  /-- A reply, or the apology for it, comes where it is meant to. -/
  | answer {p : PendingTurn} {target : Selection} {outcome : Outcome}
      (waited : c.sending = some p) (meant : p.target = some target)
      (store : c'.store = c.store.append target (.assistant (replyText outcome)))
      (sending : c'.sending = none) : Change c c' (.complete p.ticket outcome)
  /-- A reply to a draft that was given up is dropped. -/
  | drop {p : PendingTurn} {outcome : Outcome} (waited : c.sending = some p)
      (meant : p.target = none) (store : c'.store = c.store) (sending : c'.sending = none) :
      Change c c' (.complete p.ticket outcome)
  /-- The draft is saved on the way to another key, and its reply follows it. -/
  | leave {dest : Navigation} {stamp : Stamp} (moves : dest.normalise ≠ c.navigation)
      (content : c.store.draft.hasContent = true) (unsaved : c.store.draftIsSaved = false)
      (draft : c'.store.draft = .empty dest.normalise.key)
      (saved : c'.store.saved = c.store.sessionOfDraft stamp :: c.store.saved)
      (sending : c'.sending = c.sending.map (·.redirect (some (.saved stamp.id)))) :
      Change c c' (.navigate dest stamp)
  /-- The draft is given up on the way to another key, with its reply: it has no conversation, or
  one that is saved already. -/
  | abandon {dest : Navigation} {stamp : Stamp} (moves : dest.normalise ≠ c.navigation)
      (spare : c.store.draft.hasContent = true → c.store.draftIsSaved = true)
      (draft : c'.store.draft = .empty dest.normalise.key)
      (saved : c'.store.saved = c.store.saved)
      (sending : c'.sending = c.sending.map (·.redirect none)) : Change c c' (.navigate dest stamp)
  /-- The draft is saved on the user's wish, and no reply is waited for any more. -/
  | save {stamp : Stamp} (content : c.store.draft.hasContent = true)
      (draft : c'.store.draft = ⟨c.store.draft.key, [.system readyMessage]⟩)
      (saved : c'.store.saved = c.store.sessionOfDraft stamp :: c.store.saved)
      (sending : c'.sending = none) : Change c c' (.save stamp)

/-! ### What is saved -/

section Created

variable {c : Controller} {op : Operation} {dest : Navigation} {stamp : Stamp}

theorem created_of_leave (moves : dest.normalise ≠ c.navigation)
    (content : c.store.draft.hasContent = true) (unsaved : c.store.draftIsSaved = false) :
    c.created (.navigate dest stamp) = some (c.store.sessionOfDraft stamp) := by
  simp [created, moves, content, unsaved]

theorem created_of_abandon (moves : dest.normalise ≠ c.navigation)
    (spare : c.store.draft.hasContent = true → c.store.draftIsSaved = true) :
    c.created (.navigate dest stamp) = none := by
  simpa [created, moves] using spare

theorem created_of_stays (stays : dest.normalise = c.navigation) :
    c.created (.navigate dest stamp) = none := by
  simp [created, stays]

theorem created_of_save (content : c.store.draft.hasContent = true) :
    c.created (.save stamp) = some (c.store.sessionOfDraft stamp) := by
  simp [created, content]

/-- Nothing is saved where the draft goes on. -/
theorem created_of_still (still : c.replacesDraft op = false) : c.created op = none := by
  cases op with
  | navigate dest stamp =>
      have stays : dest.normalise = c.navigation := by simpa [replacesDraft] using still
      exact created_of_stays stays
  | save stamp =>
      have empty : c.store.draft.hasContent = false := still
      simp [created, empty]
  | _ => rfl

/-- What is saved is the draft as it is, and only if it has a conversation. -/
theorem draft_of_created {s : SavedSession} (created : c.created op = some s) :
    c.store.draft.hasContent = true ∧ ∃ stamp, s = c.store.sessionOfDraft stamp := by
  cases op with
  | navigate dest stamp =>
      simp only [Controller.created] at created
      split at created
      · rename_i leaves
        exact ⟨leaves.2.1, stamp, (Option.some.inj created).symm⟩
      · cases created
  | save stamp =>
      simp only [Controller.created] at created
      split at created
      · rename_i content
        exact ⟨content, stamp, (Option.some.inj created).symm⟩
      · cases created
  | _ => cases created

end Created

/-! ### The operations, one by one -/

variable (c : Controller)

@[simp] theorem ensureOpener_store : c.ensureOpener.1.store = c.store := by
  unfold ensureOpener
  split <;> rfl

@[simp] theorem ensureOpener_sending : c.ensureOpener.1.sending = c.sending := by
  unfold ensureOpener
  split <;> rfl

@[simp] theorem ensureOpener_error : c.ensureOpener.1.error = c.error := by
  unfold ensureOpener
  split <;> rfl

/-- Leaving the draft changes nothing but the conversations, what counts as initialized, and where a
reply goes. -/
theorem leaveDraft_frame (stamp : Stamp) :
    ∃ store initialized sending, c.leaveDraft stamp =
      { c with store := store, initialized := initialized, sending := sending } := by
  unfold leaveDraft
  split
  · simp only
    split <;> exact ⟨_, _, _, rfl⟩
  · exact ⟨_, _, _, rfl⟩

section Navigate

variable {c} {dest : Navigation}

/-- A navigation to where the dialogue is already does nothing. -/
theorem perform_navigate_of_stays (stamp : Stamp) (stays : dest.normalise = c.navigation) :
    c.perform (.navigate dest stamp) = (c, none) := by
  simp only [perform, navigate, if_pos stays]

theorem after_navigate_of_stays (stamp : Stamp) (stays : dest.normalise = c.navigation) :
    c.after (.navigate dest stamp) = c := by
  rw [after, perform_navigate_of_stays stamp stays]

/-- A navigation to another place leaves the draft, enters on a new one, and asks for its opener
where nothing is saved for it. -/
theorem perform_navigate (stamp : Stamp) (moves : dest.normalise ≠ c.navigation) :
    c.perform (.navigate dest stamp) =
      let d := (c.leaveDraft stamp).enter dest.normalise
      if d.store.hasSaved dest.normalise.key then (d, none) else d.ensureOpener := by
  simp only [perform, navigate, if_neg moves]
  rfl

end Navigate

/-- Up to an opener that is asked for, a navigation leaves the draft and enters on a new one. -/
theorem after_navigate {dest : Navigation} (stamp : Stamp)
    (moves : dest.normalise ≠ c.navigation) :
    (c.after (.navigate dest stamp)).store = ((c.leaveDraft stamp).enter dest.normalise).store ∧
      (c.after (.navigate dest stamp)).sending = (c.leaveDraft stamp).sending := by
  simp only [after, perform_navigate stamp moves]
  split
  · exact ⟨rfl, rfl⟩
  · simp [enter]

theorem change_navigate (dest : Navigation) (stamp : Stamp) :
    Change c (c.after (.navigate dest stamp)) (.navigate dest stamp) := by
  by_cases moves : dest.normalise = c.navigation
  · have same : c.after (.navigate dest stamp) = c := after_navigate_of_stays stamp moves
    refine .keep (by simp [replacesDraft, moves]) (by simp) ?_ ?_ ?_ <;> rw [same]
  · obtain ⟨store, sending⟩ := c.after_navigate stamp moves
    by_cases content : c.store.draft.hasContent = true
    · by_cases known : c.store.draftIsSaved = true
      · have left : (c.leaveDraft stamp).store.saved = c.store.saved ∧
            (c.leaveDraft stamp).sending = c.sending.map (·.redirect none) := by
          simp only [leaveDraft, if_pos content, if_pos known]
          exact ⟨rfl, rfl⟩
        exact .abandon moves (fun _ => known) (by rw [store]; rfl)
          (by rw [store]; exact left.1) (sending.trans left.2)
      · have left : (c.leaveDraft stamp).store.saved =
              c.store.sessionOfDraft stamp :: c.store.saved ∧
            (c.leaveDraft stamp).sending =
              c.sending.map (·.redirect (some (.saved stamp.id))) := by
          simp only [leaveDraft, if_pos content, if_neg known]
          exact ⟨rfl, rfl⟩
        exact .leave moves content (by simpa using known) (by rw [store]; rfl)
          (by rw [store]; exact left.1) (sending.trans left.2)
    · have left : (c.leaveDraft stamp).store.saved = c.store.saved ∧
          (c.leaveDraft stamp).sending = c.sending.map (·.redirect none) := by
        simp only [leaveDraft, if_neg content]
        exact ⟨rfl, rfl⟩
      exact .abandon moves (fun h => absurd h content) (by rw [store]; rfl)
        (by rw [store]; exact left.1) (sending.trans left.2)

variable {c} in
/-- A turn is sent where the input field can be. -/
theorem sent_submit {o : Outbound} :
    c.sent .submit = some o ↔
      c.canSubmit = true ∧ ⟨c.nextTicket, .turn, c.turnRequest⟩ = o := by
  cases can : c.canSubmit <;> simp [sent, perform, submit, can]

theorem change_submit : Change c (c.after .submit) .submit := by
  by_cases can : c.canSubmit = true
  · have ready : Text.trim c.input ≠ "" ∧ c.sending.isNone = true := by
      simpa [canSubmit] using can
    refine .ask (fun blank => ready.1 (Text.trim_eq_empty.mpr blank))
      (Option.isNone_iff_eq_none.mp ready.2) ?_ ?_ <;> simp [after, perform, submit, can]
  · refine .keep rfl (by simp) ?_ ?_ ?_ <;> simp [after, perform, submit, can]

/-- An outcome is applied to the opener that is waited for under its ticket, or else to the turn;
without either it changes nothing. -/
theorem complete_cases (ticket : Ticket) (outcome : Outcome) :
    (∃ p, c.opener = some p ∧ p.ticket = ticket ∧
        c.complete ticket outcome = c.completeOpener p outcome) ∨
      (∃ p, c.sending = some p ∧ p.ticket = ticket ∧
        c.complete ticket outcome = c.completeTurn p outcome) ∨
      c.complete ticket outcome = (c, .discarded) := by
  unfold complete
  split
  · rename_i p waited
    obtain ⟨waited, same⟩ := Option.filter_eq_some_iff.mp waited
    exact Or.inl ⟨p, waited, by simpa using same, rfl⟩
  · rename_i p _ waited
    obtain ⟨waited, same⟩ := Option.filter_eq_some_iff.mp waited
    exact Or.inr (Or.inl ⟨p, waited, by simpa using same, rfl⟩)
  · exact Or.inr (Or.inr rfl)

section Waited

variable {c} {ticket : Ticket}

/-- An outcome under the ticket of the opener that is waited for is applied to that. -/
theorem complete_of_opener {p : PendingOpener} (waited : p ∈ c.opener) (same : p.ticket = ticket)
    (outcome : Outcome) : c.complete ticket outcome = c.completeOpener p outcome := by
  have mine : c.opener.filter (·.ticket = ticket) = some p :=
    Option.filter_eq_some_iff.mpr ⟨waited, by simpa using same⟩
  rw [complete, mine]

/-- An outcome under the ticket of the turn that is waited for is applied to that. -/
theorem complete_of_turn {p : PendingTurn} (opener : ∀ q ∈ c.opener, q.ticket ≠ ticket)
    (waited : p ∈ c.sending) (same : p.ticket = ticket) (outcome : Outcome) :
    c.complete ticket outcome = c.completeTurn p outcome := by
  have noOpener : c.opener.filter (·.ticket = ticket) = none := by
    refine Option.filter_eq_none_iff.mpr fun q opened => ?_
    simpa using opener q opened
  have mine : c.sending.filter (·.ticket = ticket) = some p :=
    Option.filter_eq_some_iff.mpr ⟨waited, by simpa using same⟩
  rw [complete, noOpener, mine]

/-- An outcome under a ticket that nothing is waited for under changes nothing. -/
theorem complete_of_unawaited (opener : ∀ p ∈ c.opener, p.ticket ≠ ticket)
    (turn : ∀ p ∈ c.sending, p.ticket ≠ ticket) (outcome : Outcome) :
    c.complete ticket outcome = (c, .discarded) := by
  rcases c.complete_cases ticket outcome with ⟨p, waited, same, -⟩ | ⟨p, waited, same, -⟩ | result
  · exact absurd same (opener p waited)
  · exact absurd same (turn p waited)
  · exact result

end Waited

section Opener

variable {c} {p : PendingOpener}

/-- An opener is wanted where the draft is on view and empty, nothing is saved for its key, and no
opener was fetched for it. -/
theorem wantsOpener_iff :
    c.wantsOpener = true ↔ c.store.selection = .current ∧ c.store.draft.hasContent = false ∧
      c.store.hasSaved c.store.draft.key = false ∧ c.store.draft.key ∉ c.initialized := by
  simp [wantsOpener, and_assoc]

theorem stillWants_iff :
    c.stillWants p = true ↔
      p.epoch = c.epoch ∧ c.store.draft.key = p.key ∧ c.wantsOpener = true := by
  simp [stillWants, and_assoc]

/-- An opener that still has its place is applied. -/
theorem completeOpener_of_wanted (wanted : c.stillWants p = true) (outcome : Outcome) :
    c.completeOpener p outcome =
      ({ c with
          store := c.store.append .current (.assistant (openerText outcome))
          initialized := c.initialized.insert p.key
          axes := (axesOf outcome).getD c.axes
          opener := none }, ⟨true, axesOf outcome⟩) := by
  have wanted : ({ c with opener := none } : Controller).stillWants p = true := wanted
  simp only [completeOpener, if_pos wanted]

/-- An opener that has lost its place is dropped. -/
theorem completeOpener_of_unwanted (unwanted : ¬ c.stillWants p = true) (outcome : Outcome) :
    c.completeOpener p outcome = ({ c with opener := none }, .discarded) := by
  have unwanted : ¬ ({ c with opener := none } : Controller).stillWants p = true := unwanted
  simp only [completeOpener, if_neg unwanted]

end Opener

theorem change_completeOpener {p : PendingOpener} (outcome : Outcome)
    (waited : c.opener = some p) :
    Change c (c.completeOpener p outcome).1 (.complete p.ticket outcome) := by
  by_cases wanted : c.stillWants p = true
  · obtain ⟨-, -, wants⟩ := stillWants_iff.mp wanted
    rw [completeOpener_of_wanted wanted]
    exact .greet ⟨p, waited, rfl⟩ (wantsOpener_iff.mp wants).2.1 rfl rfl
  · rw [completeOpener_of_unwanted wanted]
    exact .keep rfl (by simp) rfl rfl rfl

/-- A reply adds one message to its target, if it is meant for something that is there. -/
theorem completeTurn_store (p : PendingTurn) (outcome : Outcome) :
    (c.completeTurn p outcome).1.store =
      match p.target with
      | some target => c.store.append target (.assistant (replyText outcome))
      | none => c.store := by
  unfold completeTurn
  cases p.target with
  | none => rfl
  | some target =>
      cases outcome with
      | error failure => rfl
      | ok reply =>
          by_cases held : c.store.holds target = true
          · simp [held, replyText]
          · have gone : c.store.messages? target = none := by
              simpa [Store.holds_eq_isSome_messages?] using held
            simp [held, Store.append_of_not_held gone]

/-- Whatever comes of an opener, the wait for it ends, and nothing changes but the store, the
catalogue and what counts as initialized. -/
theorem completeOpener_frame (p : PendingOpener) (outcome : Outcome) :
    ∃ store axes initialized, (c.completeOpener p outcome).1 =
      { c with store := store, axes := axes, initialized := initialized, opener := none } := by
  simp only [completeOpener]
  split <;> exact ⟨_, _, _, rfl⟩

/-- Whatever comes of a turn, the wait for it ends, and nothing changes but the store, the catalogue
and the error. -/
theorem completeTurn_frame (p : PendingTurn) (outcome : Outcome) :
    ∃ store axes error, (c.completeTurn p outcome).1 =
      { c with store := store, axes := axes, error := error, sending := none } := by
  unfold completeTurn
  split
  · exact ⟨_, _, _, rfl⟩
  · simp only
    split <;> exact ⟨_, _, _, rfl⟩
  · exact ⟨_, _, _, rfl⟩

/-- Whatever comes of an outcome, the dialogue stays where it is: in its place, its epoch and its
count of tickets, and with its input. -/
theorem complete_frame (ticket : Ticket) (outcome : Outcome) :
    ∃ store error axes initialized opener sending, (c.complete ticket outcome).1 =
      { c with store := store, error := error, axes := axes, initialized := initialized,
               opener := opener, sending := sending } := by
  rcases c.complete_cases ticket outcome with ⟨p, -, -, result⟩ | ⟨p, -, -, result⟩ | result
  · obtain ⟨store, axes, initialized, frame⟩ := c.completeOpener_frame p outcome
    rw [result, frame]
    exact ⟨store, c.error, axes, initialized, none, c.sending, rfl⟩
  · obtain ⟨store, axes, error, frame⟩ := c.completeTurn_frame p outcome
    rw [result, frame]
    exact ⟨store, error, axes, c.initialized, c.opener, none, rfl⟩
  · rw [result]
    exact ⟨c.store, c.error, c.axes, c.initialized, c.opener, c.sending, rfl⟩

theorem change_completeTurn {p : PendingTurn} (outcome : Outcome) (waited : c.sending = some p) :
    Change c (c.completeTurn p outcome).1 (.complete p.ticket outcome) := by
  have store := c.completeTurn_store p outcome
  have sending : (c.completeTurn p outcome).1.sending = none := by
    obtain ⟨_, _, _, frame⟩ := c.completeTurn_frame p outcome
    rw [frame]
  cases meant : p.target with
  | none => exact .drop waited meant (by simpa [meant] using store) sending
  | some target => exact .answer waited meant (by simpa [meant] using store) sending

theorem change_complete (ticket : Ticket) (outcome : Outcome) :
    Change c (c.after (.complete ticket outcome)) (.complete ticket outcome) := by
  simp only [after, perform]
  rcases c.complete_cases ticket outcome with
    ⟨p, waited, rfl, result⟩ | ⟨p, waited, rfl, result⟩ | result
  · rw [result]
    exact c.change_completeOpener outcome waited
  · rw [result]
    exact c.change_completeTurn outcome waited
  · rw [result]
    exact .keep rfl (by simp) rfl rfl rfl

theorem change_save (stamp : Stamp) : Change c (c.after (.save stamp)) (.save stamp) := by
  by_cases content : c.store.draft.hasContent = true
  · refine .save content ?_ ?_ ?_ <;> simp only [after, perform, save, if_pos content] <;> rfl
  · refine .keep (by simpa [replacesDraft] using content) (by simp) ?_ ?_ ?_ <;>
      simp only [after, perform, save, if_neg content]

/-- Whatever an operation does to the conversations is one of the cases of `Change`. -/
theorem change (op : Operation) : Change c (c.after op) op := by
  cases op with
  | ensureOpener => refine .keep rfl (by simp) ?_ ?_ ?_ <;> simp [after, perform]
  | navigate dest stamp => exact c.change_navigate dest stamp
  | setInput text => exact .keep rfl (by simp) rfl rfl rfl
  | submit => exact c.change_submit
  | complete ticket outcome => exact c.change_complete ticket outcome
  | save stamp => exact c.change_save stamp
  | select selection =>
      refine .keep rfl (by simp) ?_ ?_ ?_ <;> simp [after, perform, select, Store.select]
  | delete id => exact .delete (by simp [after, perform, delete]) (by simp [after, perform, delete])
  | rename id title => exact .rename rfl rfl

section Still

variable {c} {op : Operation}

/-- A draft that is not replaced goes on. -/
theorem draft_of_still (still : c.replacesDraft op = false) :
    (c.after op).store.draft.key = c.store.draft.key ∧
      c.store.draft.messages <+: (c.after op).store.draft.messages := by
  cases c.change op with
  | keep _ _ draft _ _ =>
      rw [draft]
      exact ⟨rfl, List.prefix_refl _⟩
  | delete store _ =>
      rw [store]
      exact ⟨rfl, List.prefix_refl _⟩
  | rename store _ =>
      rw [store]
      exact ⟨rfl, List.prefix_refl _⟩
  | ask _ _ store _ =>
      rw [store]
      exact ⟨Store.draft_key_append _ _ _, Store.draft_isPrefix_append _ _ _⟩
  | greet _ _ store _ =>
      rw [store]
      exact ⟨Store.draft_key_append _ _ _, Store.draft_isPrefix_append _ _ _⟩
  | answer _ _ store _ =>
      rw [store]
      exact ⟨Store.draft_key_append _ _ _, Store.draft_isPrefix_append _ _ _⟩
  | drop _ _ store _ =>
      rw [store]
      exact ⟨rfl, List.prefix_refl _⟩
  | leave moves _ _ _ _ _ => simp [replacesDraft, moves] at still
  | abandon moves _ _ _ _ => simp [replacesDraft, moves] at still
  | save content _ _ _ => simp [replacesDraft, content] at still

end Still

end Controller
end Counsel.Dialogue
