import Counsel.Proofs.Dialogue.Openers

/-!
What the phase of a dialogue says of openers.

`initializing` is for the wait for an opener of the draft on view. An opener that is waited for is
due as long as nobody spoke in its draft (`Controller.Timely`), so where no turn is waited for, the
phase is `initializing` over an empty draft exactly if an outcome of the opener would be applied.
Once the user spoke first, the opener has lost its place, but the wait for it goes on and is still
on view (`spoken_draft_initializing`).

* `initializing_iff_due`: what the phase says in every run, over an empty draft and over one with a
  conversation.
-/

namespace Counsel.Dialogue

namespace Controller

variable {c : Controller} {p : PendingOpener}

/-! ### Phases -/

theorem phase_eq_initializing_iff :
    c.phase = .initializing ↔
      c.sending = none ∧ c.store.selection = .current ∧ c.awaitsOpener = true := by
  unfold phase
  cases c.sending with
  | some p => simp
  | none =>
      cases c.store.selection with
      | saved id => simp
      | current =>
          cases c.awaitsOpener <;> cases c.store.draft.hasContent <;> simp

/-- Where a conversation is on view in the draft and no turn is waited for, the phase tells whether
the draft's opener is. -/
theorem phase_of_conversation (idle : c.sending = none) (viewed : c.store.selection = .current)
    (content : c.store.draft.hasContent = true) :
    c.phase = if c.awaitsOpener then .initializing else .active := by
  simp [phase, idle, viewed, content]

/-- An opener is applied if it still has its place, whatever its outcome. -/
theorem applied_complete_iff (waited : p ∈ c.opener) (outcome : Outcome) :
    (c.complete p.ticket outcome).2.applied = true ↔ c.stillWants p = true := by
  rw [complete_of_opener waited rfl]
  by_cases wanted : c.stillWants p = true
  · rw [completeOpener_of_wanted wanted]
    simp [wanted]
  · rw [completeOpener_of_unwanted wanted]
    simp [wanted, Completion.discarded]

/-! ### Openers of this draft -/

/-- An opener that is waited for, for the draft there is, is due as long as nobody spoke there. -/
def Timely (c : Controller) : Prop :=
  ∀ p ∈ c.opener, p.epoch = c.epoch → c.Due p ∨ c.store.draft.hasContent = true

theorem Timely.after (timely : c.Timely) (coherent : c.Coherent) (op : Operation) :
    (c.after op).Timely := by
  intro p waited now
  rcases opener_after waited with before | ⟨o, sent, -, opener⟩
  · rcases coherent.past_or_still op before with past | ⟨still, epoch⟩
    · exact absurd now (Nat.ne_of_lt past)
    · rcases timely p before (now.trans epoch) with due | content
      · cases overtaken : c.overtakes op with
        | true => exact Or.inr (hasContent_of_overtaken still overtaken)
        | false =>
            left
            apply due.after coherent overtaken
            rintro outcome rfl
            exact c.opener_complete p.ticket outcome p waited rfl
      · exact Or.inr (hasContent_after content still)
  · have due := Due.of_sent sent opener
    cases due.waited.symm.trans waited
    exact Or.inl due

/-- Where no turn is waited for, an opener has its place exactly if its wait is on view and nobody
spoke in the draft. -/
theorem Timely.exists_wanted_iff (timely : c.Timely) (idle : c.sending = none) :
    (∃ p ∈ c.opener, c.stillWants p = true) ↔
      c.phase = .initializing ∧ c.store.draft.hasContent = false := by
  rw [phase_eq_initializing_iff, awaitsOpener_iff]
  constructor
  · rintro ⟨p, waited, wanted⟩
    obtain ⟨epoch, key, wants⟩ := stillWants_iff.mp wanted
    obtain ⟨viewed, empty, -, -⟩ := wantsOpener_iff.mp wants
    exact ⟨⟨idle, viewed, p, waited, epoch, key.symm⟩, empty⟩
  · rintro ⟨⟨-, viewed, p, waited, epoch, -⟩, empty⟩
    refine ⟨p, waited, ?_⟩
    rcases timely p waited epoch with due | content
    · exact due.stillWants_iff_selection.mpr viewed
    · rw [empty] at content
      cases content

end Controller

namespace Trail

/-- In every run the openers for the draft there is are due, unless somebody spoke there. -/
theorem timely_run (tool : Tool) (axis : Option String) (ops : List Operation) :
    ((start tool axis).run ops).controller.Timely :=
  run_keeps_coherent (fun _ op coherent timely => timely.after coherent op)
    (Controller.coherent_new _) (by simp [Controller.Timely, start, Controller.new]) ops

/-- **What `initializing` says.** In every run, while no turn is waited for: an opener is waited for
whose outcome would be applied, whatever it is, exactly if the phase is `initializing` and nobody
spoke in the draft. Where a conversation is on view in the draft, the phase is `active`, unless the
opener of that draft is still waited for: then it is `initializing`, though the opener has lost its
place. -/
theorem initializing_iff_due (tool : Tool) (axis : Option String) (ops : List Operation)
    (idle : ((start tool axis).run ops).controller.sending = none) :
    let now := ((start tool axis).run ops).controller
    (∀ outcome, (∃ p ∈ now.opener, (now.complete p.ticket outcome).2.applied = true) ↔
        now.phase = .initializing ∧ now.store.draft.hasContent = false) ∧
      (now.store.selection = .current → now.store.draft.hasContent = true →
        now.phase = if now.awaitsOpener then .initializing else .active) := by
  intro now
  constructor
  · intro outcome
    rw [← (timely_run tool axis ops).exists_wanted_iff idle]
    refine exists_congr fun p => and_congr_right fun waited => ?_
    exact Controller.applied_complete_iff waited outcome
  · exact Controller.phase_of_conversation idle

/-- A new tool after a first conversation: its opener is waited for, and would be applied. -/
theorem initializing_iff_due_for_next_tool :
    let ops := [.ensureOpener, .setInput "What now?", .submit,
      .complete ⟨2⟩ (.ok ⟨"Wait.", none⟩), .navigate ⟨.resulting, none⟩ ⟨⟨1⟩, ⟨0, 0⟩⟩]
    let now := ((start .debrief none).run ops).controller
    now.sending = none ∧ now.phase = .initializing ∧
      ∀ outcome, ∃ p ∈ now.opener, (now.complete p.ticket outcome).2.applied = true := by
  intro ops now
  have idle : now.sending = none := by decide
  have phase : now.phase = .initializing := by decide
  have empty : now.store.draft.hasContent = false := by decide
  refine ⟨idle, phase, fun outcome => ?_⟩
  exact ((initializing_iff_due .debrief none ops idle).1 outcome).mpr ⟨phase, empty⟩

/-- The user speaks before the opener comes, and has the reply. The draft has a conversation, and no
turn is waited for; the phase is `initializing` all the same, and whatever comes of the opener is
dropped. -/
theorem spoken_draft_initializing :
    let t := (start .debrief none).run [.ensureOpener, .setInput "What now?", .submit,
      .complete ⟨2⟩ (.ok ⟨"Wait.", none⟩)]
    let now := t.controller
    t.Reachable ∧ now.sending = none ∧ now.store.selection = .current ∧
      now.store.draft.hasContent = true ∧ now.phase = .initializing ∧
      ∀ p ∈ now.opener, ∀ outcome, (now.complete p.ticket outcome).2.applied = false := by
  intro t now
  have reached : t.Reachable := (Reachable.opened .debrief none).run (by decide)
  refine ⟨reached, by decide, by decide, by decide, by decide, ?_⟩
  intro p waited outcome
  have unwanted : ∀ p ∈ now.opener, now.stillWants p = false := by decide
  rw [Bool.eq_false_iff, ne_eq, Controller.applied_complete_iff waited, unwanted p waited]
  exact Bool.false_ne_true

end Trail
end Counsel.Dialogue
