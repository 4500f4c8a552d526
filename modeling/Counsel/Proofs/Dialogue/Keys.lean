import Counsel.Proofs.Dialogue.Saved
import Counsel.Proofs.Session.Key

/-!
Keys of a dialogue. Only a navigation changes where the dialogue is (`navigation_after`), and it
takes the draft along: `Keyed` says that the draft is always for the tool and axis the dialogue is
on, and that every key in use is normalised. Every run has it (`Trail.keyed_run`).
-/

namespace Counsel

namespace Dialogue

namespace Controller

variable {c : Controller} {op : Operation}

/-- Where the dialogue is after an operation. -/
def destination (c : Controller) : Operation → Navigation
  | .navigate dest _ => dest.normalise
  | _ => c.navigation

@[simp] theorem ensureOpener_navigation (c : Controller) :
    c.ensureOpener.1.navigation = c.navigation := by
  unfold ensureOpener
  split <;> rfl

theorem navigation_after (c : Controller) (op : Operation) :
    (c.after op).navigation = c.destination op := by
  cases op with
  | ensureOpener => exact c.ensureOpener_navigation
  | navigate dest stamp =>
      simp only [after, perform, navigate, destination]
      split
      · rename_i stays
        exact stays.symm
      · split
        · rfl
        · simp [enter]
  | setInput text => rfl
  | submit =>
      simp only [after, perform, submit, destination]
      split <;> rfl
  | complete ticket outcome =>
      obtain ⟨_, _, _, _, _, _, frame⟩ := c.complete_frame ticket outcome
      simp only [after, perform, frame, destination]
  | save stamp =>
      simp only [after, perform, save, destination]
      split <;> rfl
  | select selection => simp [after, perform, select, destination]
  | delete id => simp [after, perform, delete, destination]
  | rename id title => rfl

/-- The dialogue stays where it is as long as its draft goes on. -/
theorem destination_of_still (still : c.replacesDraft op = false) :
    c.destination op = c.navigation := by
  cases op with
  | navigate dest stamp => simpa [replacesDraft, destination] using still
  | _ => rfl

/-- The draft is for the tool and axis the dialogue is on, and every key is normalised. -/
structure Keyed (c : Controller) : Prop where
  draft : c.store.draft.key = c.navigation.key
  normal : c.navigation.key.Normal
  saved : ∀ s ∈ c.store.saved, s.key.Normal

variable {c : Controller}

/-- Where the dialogue is, normalising changes nothing. -/
theorem Keyed.normalise_navigation (keyed : c.Keyed) : c.navigation.normalise = c.navigation :=
  Navigation.key_injective keyed.normal

theorem Keyed.draft_normal (keyed : c.Keyed) : c.store.draft.key.Normal := by
  rw [keyed.draft]
  exact keyed.normal

theorem Keyed.draft_after (keyed : c.Keyed) (op : Operation) :
    (c.after op).store.draft.key = (c.after op).navigation.key := by
  rw [c.navigation_after]
  cases still : c.replacesDraft op with
  | false => rw [(draft_of_still still).1, destination_of_still still, keyed.draft]
  | true =>
      cases c.change op with
      | leave _ _ _ draft _ _ =>
          rw [draft]
          rfl
      | abandon _ _ draft _ _ =>
          rw [draft]
          rfl
      | save _ draft _ _ =>
          rw [draft]
          exact keyed.draft
      | keep other _ _ _ _ =>
          rw [still] at other
          cases other
      | _ => cases still

/-- A session saved from the draft has the draft's key, and the others have theirs. -/
theorem Keyed.saved_after (keyed : c.Keyed) (op : Operation) :
    ∀ s ∈ (c.after op).store.saved, s.key.Normal := by
  intro s member
  obtain ⟨kept, saved, each⟩ := c.saved_after op
  rw [saved] at member
  rcases List.mem_append.mp member with created | old
  · obtain ⟨-, stamp, rfl⟩ := draft_of_created (Option.mem_toList.mp created)
    have own : (c.store.sessionOfDraft stamp).key = c.navigation.key := keyed.draft
    rw [own]
    exact keyed.normal
  · obtain ⟨before, there, kept⟩ := Kept.exists_old each old
    rw [kept.key]
    exact keyed.saved before (List.mem_filter.mp there).1

theorem Keyed.after (keyed : c.Keyed) (op : Operation) : (c.after op).Keyed where
  draft := keyed.draft_after op
  normal := by
    rw [c.navigation_after]
    cases op with
    | navigate dest stamp => exact dest.key_normalise_normal
    | _ => exact keyed.normal
  saved := keyed.saved_after op

theorem keyed_new (tool : Tool) (axis : Option String) : (new (.of tool axis)).Keyed :=
  ⟨rfl, SessionKey.of_normal tool axis, by simp [new, Store.new]⟩

end Controller

/-- In every run the keys are normalised, and the draft has the one the dialogue is on. -/
theorem Trail.keyed_run (tool : Tool) (axis : Option String) (ops : List Operation) :
    ((start tool axis).run ops).controller.Keyed :=
  run_keeps (fun _ op keyed => keyed.after op) (Controller.keyed_new tool axis) ops

theorem Trail.Reachable.keyed {t : Trail} (reached : t.Reachable) : t.controller.Keyed := by
  induction reached with
  | opened tool axis => exact Controller.keyed_new tool axis
  | step _ _ ih => exact ih.after _

end Dialogue
end Counsel
