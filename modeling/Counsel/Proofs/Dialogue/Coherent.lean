import Counsel.Proofs.Dialogue.Identity

/-!
What the parts of a dialogue say of one another.

The epoch goes up by one exactly when the draft is replaced (`Controller.epoch_after`); as long as
it stays, the draft only grows (`Controller.draft_of_still`). `Controller.Coherent` ties
the rest to the draft there is: no other key counts as initialized, an opener is of this epoch or an
earlier one, and a reply is meant for the draft only while that has a conversation. Every run has it
(`Trail.coherent_run`); nothing is asked of the identifiers.
-/

namespace Counsel.Dialogue

namespace Controller

variable {c : Controller} {op : Operation}

@[simp] theorem ensureOpener_epoch (c : Controller) : c.ensureOpener.1.epoch = c.epoch := by
  unfold ensureOpener
  split <;> rfl

@[simp] theorem ensureOpener_initialized (c : Controller) :
    c.ensureOpener.1.initialized = c.initialized := by
  unfold ensureOpener
  split <;> rfl

/-- The epoch counts the drafts. -/
theorem epoch_after (c : Controller) (op : Operation) :
    (c.after op).epoch = c.epoch + if c.replacesDraft op then 1 else 0 := by
  cases op with
  | ensureOpener => simp [after, perform, replacesDraft]
  | navigate dest stamp =>
      simp only [after, perform, navigate, replacesDraft]
      by_cases stays : dest.normalise = c.navigation
      · simp [stays]
      · simp only [if_neg stays]
        obtain ⟨_, _, _, left⟩ := c.leaveDraft_frame stamp
        split <;> simp [enter, left, stays]
  | setInput text => rfl
  | submit =>
      simp only [after, perform, submit]
      split <;> rfl
  | complete ticket outcome =>
      obtain ⟨_, _, _, _, _, _, frame⟩ := c.complete_frame ticket outcome
      simp only [after, perform, frame]
      rfl
  | save stamp =>
      simp only [after, perform, save, replacesDraft]
      by_cases content : c.store.draft.hasContent = true
      · simp [content]
      · simp [content]
  | select selection => simp [after, perform, select, replacesDraft]
  | delete id => simp [after, perform, delete, replacesDraft]
  | rename id title => rfl

/-- The parts of a dialogue fit the draft that there is. -/
structure Coherent (c : Controller) : Prop where
  /-- Only the draft's key counts as initialized, and only with a conversation in the draft. -/
  initialized : c.initialized = [] ∨
    c.initialized = [c.store.draft.key] ∧ c.store.draft.hasContent = true
  opener : ∀ p ∈ c.opener, p.epoch ≤ c.epoch
  turn : ∀ p ∈ c.sending, p.target = some .current → c.store.draft.hasContent = true

theorem hasContent_after (content : c.store.draft.hasContent = true)
    (still : c.replacesDraft op = false) : (c.after op).store.draft.hasContent = true :=
  hasContent_of_isPrefix (draft_of_still still).2 content

namespace Coherent

/-- An empty draft has nothing initialized. -/
theorem initialized_of_empty (coherent : c.Coherent)
    (empty : c.store.draft.hasContent = false) : c.initialized = [] := by
  rcases coherent.initialized with unfetched | ⟨-, content⟩
  · exact unfetched
  · rw [empty] at content
    cases content

/-- Leaving the draft behind leaves nothing initialized. -/
theorem erase_initialized (coherent : c.Coherent) :
    c.initialized.erase c.store.draft.key = [] := by
  rcases coherent.initialized with unfetched | ⟨only, -⟩
  · rw [unfetched]
    rfl
  · rw [only]
    simp

theorem leaveDraft_initialized (coherent : c.Coherent) (stamp : Stamp) :
    (c.leaveDraft stamp).initialized = [] := by
  by_cases content : c.store.draft.hasContent = true
  · simp only [leaveDraft, if_pos content]
    split <;> exact coherent.erase_initialized
  · have empty : c.store.draft.hasContent = false := by simpa using content
    simp only [leaveDraft, if_neg content]
    exact coherent.initialized_of_empty empty

/-- As long as what is initialized stays the same and the draft goes on, the two fit. -/
theorem initialized_of_still (coherent : c.Coherent) (still : c.replacesDraft op = false)
    (same : (c.after op).initialized = c.initialized) :
    (c.after op).initialized = [] ∨
      (c.after op).initialized = [(c.after op).store.draft.key] ∧
        (c.after op).store.draft.hasContent = true := by
  rw [same, (draft_of_still still).1]
  rcases coherent.initialized with unfetched | ⟨only, content⟩
  · exact Or.inl unfetched
  · exact Or.inr ⟨only, hasContent_after content still⟩

/-- An opener that is applied is the first message of the draft, whose key counts as initialized
then. -/
theorem completeOpener_initialized (coherent : c.Coherent) (p : PendingOpener)
    (outcome : Outcome) :
    (c.completeOpener p outcome).1.initialized = c.initialized ∨
      (c.completeOpener p outcome).1.initialized =
          [(c.completeOpener p outcome).1.store.draft.key] ∧
        (c.completeOpener p outcome).1.store.draft.hasContent = true := by
  by_cases wanted : c.stillWants p = true
  · right
    obtain ⟨-, key, wants⟩ := stillWants_iff.mp wanted
    obtain ⟨-, empty, -, -⟩ := wantsOpener_iff.mp wants
    rw [completeOpener_of_wanted wanted, coherent.initialized_of_empty empty, ← key]
    exact ⟨rfl, hasContent_append_assistant c.store.draft.messages (openerText outcome)⟩
  · left
    rw [completeOpener_of_unwanted wanted]

theorem initialized_after (coherent : c.Coherent) (op : Operation) :
    (c.after op).initialized = [] ∨
      (c.after op).initialized = [(c.after op).store.draft.key] ∧
        (c.after op).store.draft.hasContent = true := by
  cases op with
  | ensureOpener => exact coherent.initialized_of_still rfl (by simp [after, perform])
  | navigate dest stamp =>
      by_cases stays : dest.normalise = c.navigation
      · refine coherent.initialized_of_still (by simp [replacesDraft, stays]) ?_
        rw [after_navigate_of_stays stamp stays]
      · left
        simp only [Controller.after, perform_navigate stamp stays]
        split <;> simp [enter, coherent.leaveDraft_initialized stamp]
  | setInput text => exact coherent.initialized_of_still rfl rfl
  | submit =>
      refine coherent.initialized_of_still rfl ?_
      simp only [after, perform, submit]
      split <;> rfl
  | complete ticket outcome =>
      have still : c.replacesDraft (.complete ticket outcome) = false := rfl
      have fits := coherent.initialized_of_still still
      simp only [after, perform] at fits ⊢
      rcases c.complete_cases ticket outcome with ⟨p, -, -, result⟩ | ⟨p, -, -, result⟩ | result
      · rw [result] at fits ⊢
        rcases coherent.completeOpener_initialized p outcome with same | fetched
        · exact fits same
        · exact Or.inr fetched
      · obtain ⟨_, _, _, frame⟩ := c.completeTurn_frame p outcome
        exact fits (by rw [result, frame])
      · exact fits (by rw [result])
  | save stamp =>
      by_cases content : c.store.draft.hasContent = true
      · left
        simp only [after, perform, save, if_pos content]
        exact coherent.erase_initialized
      · refine coherent.initialized_of_still (by simpa [replacesDraft] using content) ?_
        simp only [after, perform, save, if_neg content]
  | select selection => exact coherent.initialized_of_still rfl (by simp [after, perform, select])
  | delete id => exact coherent.initialized_of_still rfl (by simp [after, perform, delete])
  | rename id title => exact coherent.initialized_of_still rfl rfl

theorem opener_after (coherent : c.Coherent) (op : Operation) :
    ∀ p ∈ (c.after op).opener, p.epoch ≤ (c.after op).epoch := by
  intro p waited
  cases c.openerChange op with
  | kept opener _ =>
      rw [opener] at waited
      rw [c.epoch_after op]
      exact Nat.le_trans (coherent.opener p waited) (Nat.le_add_right _ _)
  | closed opener _ => simp [opener] at waited
  | asked opener _ =>
      rw [opener] at waited
      cases waited
      exact Nat.le_refl _

theorem turn_after (coherent : c.Coherent) (op : Operation) :
    ∀ p ∈ (c.after op).sending, p.target = some .current →
      (c.after op).store.draft.hasContent = true := by
  intro p waited meant
  cases c.change op with
  | keep still _ _ _ sending =>
      rw [sending] at waited
      exact hasContent_after (coherent.turn p waited meant) still
  | delete _ sending =>
      rw [sending] at waited
      exact hasContent_after (coherent.turn p waited meant) rfl
  | rename _ sending =>
      rw [sending] at waited
      exact hasContent_after (coherent.turn p waited meant) rfl
  | greet _ _ _ sending =>
      rw [sending] at waited
      exact hasContent_after (coherent.turn p waited meant) rfl
  | ask _ _ store sending =>
      rw [sending] at waited
      cases waited
      have viewed : c.store.selection = .current := Option.some.inj meant
      rw [store, viewed]
      exact hasContent_append_user c.store.draft.messages c.input
  | answer _ _ _ sending => simp [sending] at waited
  | drop _ _ _ sending => simp [sending] at waited
  | save _ _ _ sending => simp [sending] at waited
  | leave _ _ _ _ _ sending =>
      rw [sending] at waited
      obtain ⟨q, -, rfl⟩ := Option.map_eq_some_iff.mp waited
      exact absurd meant (q.redirect_target_ne (by simp))
  | abandon _ _ _ _ sending =>
      rw [sending] at waited
      obtain ⟨q, -, rfl⟩ := Option.map_eq_some_iff.mp waited
      exact absurd meant (q.redirect_target_ne (by simp))

theorem after (coherent : c.Coherent) (op : Operation) : (c.after op).Coherent where
  initialized := coherent.initialized_after op
  opener := coherent.opener_after op
  turn := coherent.turn_after op

/-- The epoch of an opener that is waited for is over after an operation, unless the draft goes on
in the same epoch. -/
theorem past_or_still (coherent : c.Coherent) (op : Operation) {p : PendingOpener}
    (waited : p ∈ c.opener) :
    p.epoch < (c.after op).epoch ∨
      c.replacesDraft op = false ∧ (c.after op).epoch = c.epoch := by
  have epoch := c.epoch_after op
  have old := coherent.opener p waited
  cases still : c.replacesDraft op with
  | true =>
      simp only [still, if_true] at epoch
      left
      omega
  | false =>
      simp only [still, Bool.false_eq_true, if_false, Nat.add_zero] at epoch
      exact Or.inr ⟨rfl, epoch⟩

/-- A reply makes no conversation of a draft: the draft it is meant for has one already. -/
theorem hasContent_completeTurn (coherent : c.Coherent) {q : PendingTurn}
    (waited : q ∈ c.sending) (outcome : Outcome) :
    (c.completeTurn q outcome).1.store.draft.hasContent = c.store.draft.hasContent := by
  rw [c.completeTurn_store q outcome]
  cases meant : q.target with
  | none => rfl
  | some target =>
      cases target with
      | saved id => rfl
      | current =>
          rw [coherent.turn q waited meant]
          exact hasContent_append_assistant c.store.draft.messages (replyText outcome)

end Coherent

theorem coherent_new (navigation : Navigation) : (new navigation).Coherent :=
  ⟨Or.inl rfl, by simp [new], by simp [new]⟩

end Controller

/-- In every run the parts of the dialogue fit the draft. -/
theorem Trail.coherent_run (tool : Tool) (axis : Option String) (ops : List Operation) :
    ((start tool axis).run ops).controller.Coherent :=
  run_keeps (fun _ op coherent => coherent.after op) (Controller.coherent_new _) ops

/-- What every operation keeps where the parts of the dialogue fit is kept by every run. -/
theorem Trail.run_keeps_coherent {P : Controller → Prop} {t : Trail}
    (after : ∀ c op, c.Coherent → P c → P (c.after op)) (coherent : t.controller.Coherent)
    (start : P t.controller) (ops : List Operation) : P (t.run ops).controller := by
  have both := run_keeps (P := fun c => c.Coherent ∧ P c)
    (fun c op ⟨coherent, kept⟩ => ⟨coherent.after op, after c op coherent kept⟩)
    ⟨coherent, start⟩ ops
  exact both.2

theorem Trail.Reachable.coherent {t : Trail} (reached : t.Reachable) : t.controller.Coherent := by
  induction reached with
  | opened tool axis => exact Controller.coherent_new _
  | step _ _ ih => exact ih.after _

end Counsel.Dialogue
