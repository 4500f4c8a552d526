import Counsel.Proofs.Dialogue.Change
import Mathlib.Data.List.Forall2

/-!
The saved sessions, from one operation to the next.

`Controller.saved_after` says all that an operation does to their list: at most one session comes
to the front, the draft as it was saved, and behind it stands what was there before, in its order,
without the session that is deleted. Each of these has its identifier, tool, axis and time; its
title changed only by a rename, and its messages by at most one at their end (`Kept`).
-/

namespace Counsel

/-- Changing one session of a list leaves every session as it was, or as the change leaves it. -/
theorem Store.forall₂_updateFirst {R : SavedSession → SavedSession → Prop} {id : SessionId}
    {change : SavedSession → SavedSession} (refl : ∀ s, R s s)
    (step : ∀ s, s.id = id → R s (change s)) (sessions : List SavedSession) :
    List.Forall₂ R sessions (updateFirst id change sessions) := by
  induction sessions with
  | nil => exact .nil
  | cons s rest ih =>
      unfold updateFirst
      split
      · rename_i this
        exact .cons (step s this) (List.forall₂_same.mpr fun other _ => refl other)
      · exact .cons (refl s) ih

namespace Dialogue

/-- Whether an operation leaves the session with an identifier where it is. -/
def Operation.keeps : Operation → SessionId → Bool
  | .delete gone, id => id ≠ gone
  | _, _ => true

/-- What an operation leaves of a saved session. -/
structure Kept (op : Operation) (old new : SavedSession) : Prop where
  id : new.id = old.id
  tool : new.tool = old.tool
  axis : new.axis = old.axis
  createdAt : new.createdAt = old.createdAt
  title : new.title = old.title ∨
    ∃ title, op = .rename old.id title ∧ new.title = Title.ofWish title
  messages : new.messages = old.messages ∨ ∃ message, new.messages = old.messages ++ [message]

namespace Kept

variable {op : Operation} {old new : SavedSession} {olds news : List SavedSession}

theorem refl (op : Operation) (s : SavedSession) : Kept op s s :=
  ⟨rfl, rfl, rfl, rfl, Or.inl rfl, Or.inl rfl⟩

theorem key (kept : Kept op old new) : new.key = old.key := by
  rw [SavedSession.key, kept.tool, kept.axis]
  rfl

theorem messages_isPrefix (kept : Kept op old new) : old.messages <+: new.messages := by
  rcases kept.messages with same | ⟨message, more⟩
  · exact ⟨[], by rw [List.append_nil, same]⟩
  · rw [more]
    exact List.prefix_append _ _

theorem list_refl (op : Operation) (sessions : List SavedSession) :
    List.Forall₂ (Kept op) sessions sessions :=
  List.forall₂_same.mpr fun s _ => refl op s

theorem list_append (op : Operation) (store : Store) (place : Selection) (message : Message) :
    List.Forall₂ (Kept op) store.saved (store.append place message).saved := by
  cases place with
  | current => exact list_refl op store.saved
  | saved id =>
      refine Store.forall₂_updateFirst (refl op) (fun s _ => ?_) store.saved
      exact ⟨rfl, rfl, rfl, rfl, Or.inl rfl, Or.inr ⟨message, rfl⟩⟩

theorem list_rename (store : Store) (id : SessionId) (title : String) :
    List.Forall₂ (Kept (.rename id title)) store.saved (store.rename id title).saved := by
  refine Store.forall₂_updateFirst (refl _) (fun s same => ?_) store.saved
  have wish : Operation.rename id title = .rename s.id title := by rw [same]
  have named : ({ s with title := Title.ofWish title } : SavedSession).title =
      Title.ofWish title := by simp only
  exact ⟨rfl, rfl, rfl, rfl, Or.inr ⟨title, wish, named⟩, Or.inl rfl⟩

/-- What is kept of each session is kept of the list, in its order. -/
theorem list_map {α : Type} (part : SavedSession → α)
    (same : ∀ old new, Kept op old new → part new = part old)
    (kept : List.Forall₂ (Kept op) olds news) : news.map part = olds.map part := by
  induction kept with
  | nil => rfl
  | cons first _ ih => rw [List.map_cons, List.map_cons, same _ _ first, ih]

/-- Sessions that are kept are the same ones in the same order. -/
theorem list_ids (kept : List.Forall₂ (Kept op) olds news) :
    news.map (·.id) = olds.map (·.id) :=
  list_map (·.id) (fun _ _ => Kept.id) kept

/-- Each session that is kept was there before. -/
theorem exists_old (kept : List.Forall₂ (Kept op) olds news) {new : SavedSession}
    (member : new ∈ news) : ∃ old ∈ olds, Kept op old new := by
  induction kept with
  | nil => cases member
  | cons first _ ih =>
      rcases List.mem_cons.mp member with rfl | rest
      · exact ⟨_, List.mem_cons_self, first⟩
      · obtain ⟨old, there, kept⟩ := ih rest
        exact ⟨old, List.mem_cons_of_mem _ there, kept⟩

end Kept

namespace Controller

variable {c : Controller} {op : Operation}

/-- Only a deletion takes a session away. -/
theorem saved_of_keeps {kept : List SavedSession} (keeps : ∀ id, op.keeps id = true)
    (saved : (c.after op).store.saved = (c.created op).toList ++ kept)
    (each : List.Forall₂ (Kept op) c.store.saved kept) :
    ∃ kept, (c.after op).store.saved = (c.created op).toList ++ kept ∧
      List.Forall₂ (Kept op) (c.store.saved.filter fun s => op.keeps s.id) kept := by
  refine ⟨kept, saved, ?_⟩
  rw [List.filter_eq_self.mpr fun s _ => keeps s.id]
  exact each

/-- A message that comes to a conversation takes no session away. -/
theorem saved_of_append {place : Selection} {message : Message}
    (keeps : ∀ id, op.keeps id = true) (unmade : c.created op = none)
    (store : (c.after op).store = c.store.append place message) :
    ∃ kept, (c.after op).store.saved = (c.created op).toList ++ kept ∧
      List.Forall₂ (Kept op) (c.store.saved.filter fun s => op.keeps s.id) kept := by
  refine saved_of_keeps keeps ?_ (Kept.list_append op c.store place message)
  rw [store, unmade]
  rfl

/-- Everything that an operation does to the saved sessions. -/
theorem saved_after (c : Controller) (op : Operation) :
    ∃ kept, (c.after op).store.saved = (c.created op).toList ++ kept ∧
      List.Forall₂ (Kept op) (c.store.saved.filter fun s => op.keeps s.id) kept := by
  have same := Kept.list_refl op c.store.saved
  cases c.change op with
  | keep still kept _ saved _ =>
      refine saved_of_keeps (fun id => ?_) ?_ same
      · cases op with
        | delete gone => exact absurd rfl (kept gone)
        | _ => rfl
      · rw [created_of_still still, saved]
        rfl
  | delete store _ =>
      refine ⟨_, ?_, Kept.list_refl _ _⟩
      rw [store]
      rfl
  | rename store _ =>
      refine saved_of_keeps (fun _ => rfl) ?_ (Kept.list_rename c.store _ _)
      rw [store]
      rfl
  | ask _ _ store _ => exact saved_of_append (fun _ => rfl) rfl store
  | greet _ _ store _ => exact saved_of_append (fun _ => rfl) rfl store
  | answer _ _ store _ => exact saved_of_append (fun _ => rfl) rfl store
  | drop _ _ store _ =>
      refine saved_of_keeps (fun _ => rfl) ?_ same
      rw [store]
      rfl
  | leave moves content unsaved _ saved _ =>
      refine saved_of_keeps (fun _ => rfl) ?_ same
      rw [saved, created_of_leave moves content unsaved]
      rfl
  | abandon moves spare _ saved _ =>
      refine saved_of_keeps (fun _ => rfl) ?_ same
      rw [saved, created_of_abandon moves spare]
      rfl
  | save content _ saved _ =>
      refine saved_of_keeps (fun _ => rfl) ?_ same
      rw [saved, created_of_save content]
      rfl

end Controller
end Dialogue
end Counsel
