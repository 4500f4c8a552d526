import Counsel.Proofs.Dialogue.Identity
import Counsel.Proofs.Dialogue.Keys

/-!
Nothing that was said is lost.

* `conversations_kept`: what an operation leaves of the conversations. The saved sessions stay as
  they were, or get one message more; the draft goes on, or is found under its key among the saved
  sessions; and what is saved is the draft, under the key it had, ahead of all other sessions.
-/

namespace Counsel.Dialogue

namespace Controller

variable {c : Controller}

/-- A draft with a conversation goes on, or is saved, or was saved already. -/
theorem draft_after (c : Controller) (op : Operation) (content : c.store.draft.hasContent = true) :
    (c.after op).store.draft.key = c.store.draft.key ∧
        c.store.draft.messages <+: (c.after op).store.draft.messages ∨
      (∃ stamp, c.created op = some (c.store.sessionOfDraft stamp)) ∨
      c.store.draftIsSaved = true ∧ (c.after op).store.saved = c.store.saved := by
  cases still : c.replacesDraft op with
  | false => exact Or.inl (draft_of_still still)
  | true =>
      cases c.change op with
      | leave moves _ unsaved _ _ _ =>
          exact Or.inr (Or.inl ⟨_, created_of_leave moves content unsaved⟩)
      | abandon _ spare _ saved _ => exact Or.inr (Or.inr ⟨spare content, saved⟩)
      | save _ _ _ _ => exact Or.inr (Or.inl ⟨_, created_of_save content⟩)
      | keep other _ _ _ _ =>
          rw [still] at other
          cases other
      | _ => cases still

/-- Between normalised keys, a copy of the draft is saved under the draft's own key. -/
theorem Keyed.exists_copy (keyed : c.Keyed) (known : c.store.draftIsSaved = true) :
    ∃ s ∈ c.store.saved, s.key = c.store.draft.key ∧ s.messages = c.store.draft.messages := by
  obtain ⟨s, member, own, same⟩ := Store.draftIsSaved_iff.mp known
  refine ⟨s, member, ?_, same⟩
  exact (SavedSession.isFor_iff (keyed.saved s member) keyed.draft_normal).mp own

/-- A session is never saved under the key that a navigation goes to. -/
theorem Keyed.created_key_ne (keyed : c.Keyed) {dest : Navigation} {stamp : Stamp}
    {s : SavedSession} (created : c.created (.navigate dest stamp) = some s) :
    s.key ≠ dest.normalise.key := by
  simp only [Controller.created] at created
  split at created
  · rename_i leaves
    cases created
    intro same
    have there : dest.normalise = c.navigation :=
      Navigation.key_injective (same.symm.trans keyed.draft)
    exact leaves.1 there
  · cases created

end Controller

namespace Trail

variable {t : Trail} {op : Operation}

/-- **No conversation is lost.** An operation leaves every saved session that it does not delete
in its place among the others, with at most one message more; the conversation of the draft goes
on there, or in a session saved under the draft's key; and the one session that may be saved stands
ahead of the others, under the key of the draft and never under that of a navigation's goal. -/
theorem conversations_kept (reached : t.Reachable) (fresh : t.Fresh op) :
    let old := t.controller.store
    let new := (t.next op).controller.store
    let created := t.controller.created op
    (∃ kept, new.saved = created.toList ++ kept ∧
        List.Forall₂ (Kept op) (old.saved.filter fun s => op.keeps s.id) kept) ∧
      (old.draft.hasContent = true →
        (new.draft.key = old.draft.key ∧ old.draft.messages <+: new.draft.messages) ∨
          ∃ s ∈ new.saved, s.key = old.draft.key ∧ old.draft.messages <+: s.messages) ∧
      ∀ s ∈ created, s.key = old.draft.key ∧ s.messages = old.draft.messages ∧ s.id ∉ old.ids ∧
        ∀ dest stamp, op = .navigate dest stamp → s.key ≠ dest.normalise.key := by
  intro old new created
  have keyed := reached.keyed
  refine ⟨t.controller.saved_after op, ?_, ?_⟩
  · intro content
    rcases t.controller.draft_after op content with goesOn | ⟨stamp, saved⟩ | ⟨known, same⟩
    · exact Or.inl goesOn
    · obtain ⟨kept, saved', -⟩ := t.controller.saved_after op
      rw [saved] at saved'
      refine Or.inr ⟨old.sessionOfDraft stamp, ?_, rfl, List.prefix_refl _⟩
      show _ ∈ (t.controller.after op).store.saved
      rw [saved']
      exact List.mem_cons_self
    · obtain ⟨s, member, key, messages⟩ := keyed.exists_copy known
      refine Or.inr ⟨s, ?_, key, messages ▸ List.prefix_refl s.messages⟩
      show _ ∈ (t.controller.after op).store.saved
      rwa [same]
  · intro s saved
    obtain ⟨-, stamp, rfl⟩ := Controller.draft_of_created saved
    refine ⟨rfl, rfl, ?_, ?_⟩
    · intro used
      exact fresh _ saved (reached.ids_given _ used)
    · rintro dest stamp' rfl
      exact keyed.created_key_ne saved

/-- Leaving for another tool, the conversation of the draft is found among the saved sessions. -/
theorem conversations_kept_on_leaving :
    let t := (start .debrief none).run [.setInput "What now?", .submit]
    let op := .navigate ⟨.resulting, none⟩ ⟨⟨1⟩, ⟨0, 0⟩⟩
    t.Reachable ∧ t.Fresh op ∧ t.controller.store.draft.hasContent = true ∧
      ∃ s ∈ (t.next op).controller.store.saved,
        s.key = ⟨.debrief, none⟩ ∧ [.user "What now?"] <+: s.messages := by
  intro t op
  have reached : t.Reachable := (Reachable.opened .debrief none).run (by decide)
  have fresh : t.Fresh op := by decide
  have content : t.controller.store.draft.hasContent = true := by decide
  refine ⟨reached, fresh, content, ?_⟩
  rcases (conversations_kept reached fresh).2.1 content with ⟨stays, -⟩ | found
  · exact absurd stays (by decide)
  · exact found

end Trail
end Counsel.Dialogue
