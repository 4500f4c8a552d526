import Counsel.Proofs.Dialogue.Coherent
import Counsel.Proofs.Dialogue.Keys

/-!
One saved dialogue for a tool and an axis, as long as the user does not start a second one.

A second one starts with a message of the user in a draft for whose key a session is saved
(`Controller.startsSecond`). Where that never happens, a draft with a conversation is the only one
for its key, and the keys of the saved sessions are pairwise different (`Controller.Single`): the
two keep one another, since what is saved is the draft, and a draft gets a conversation only from a
message of the user or from an opener, which is refused where a session is saved.

* `one_dialogue_per_key`: however one goes back and forth between tools and axes, and whatever
  openers and replies come, no key has two saved sessions.
-/

namespace Counsel

namespace SavedSession

variable {a b : SavedSession} {key : SessionKey}

/-- Sessions with normalised keys that are for one key have the same. -/
theorem key_eq_of_isFor (own : a.key.Normal) (own' : b.key.Normal) (fits : a.isFor key = true)
    (fits' : b.isFor key = true) : a.key = b.key := by
  simp only [isFor, Bool.and_eq_true, Bool.or_eq_true, decide_eq_true_eq] at fits fits'
  obtain ⟨tool, axis⟩ := fits
  obtain ⟨tool', axis'⟩ := fits'
  by_cases goal : key.tool.isGoal = true
  · have noAxis : a.axis = none := own.axis_of_isGoal (by rwa [← tool] at goal)
    have noAxis' : b.axis = none := own'.axis_of_isGoal (by rwa [← tool'] at goal)
    rw [SavedSession.key, SavedSession.key, tool, tool', noAxis, noAxis']
  · rw [SavedSession.key, SavedSession.key, tool, tool', axis.resolve_left goal,
      axis'.resolve_left goal]

end SavedSession

/-- The keys of the saved sessions, latest first. -/
def Store.keys (store : Store) : List SessionKey := store.saved.map (·.key)

namespace Dialogue

namespace Controller

variable {c : Controller} {op : Operation}

/-- Between normalised keys, a session is saved for a key exactly if one has it. -/
theorem Keyed.hasSaved_iff (keyed : c.Keyed) {key : SessionKey} (normal : key.Normal) :
    c.store.hasSaved key = true ↔ key ∈ c.store.keys := by
  rw [Store.hasSaved_eq_any, List.any_eq_true, Store.keys, List.mem_map]
  constructor
  · rintro ⟨s, member, fits⟩
    exact ⟨s, member, (SavedSession.isFor_iff (keyed.saved s member) normal).mp fits⟩
  · rintro ⟨s, member, same⟩
    exact ⟨s, member, (SavedSession.isFor_iff (keyed.saved s member) normal).mpr same⟩

/-- An operation takes keys away, or adds that of the draft it saves. -/
theorem keys_after (c : Controller) (op : Operation) :
    ∃ kept, (c.after op).store.keys = (c.created op).toList.map (·.key) ++ kept ∧
      kept.Sublist c.store.keys := by
  obtain ⟨kept, saved, each⟩ := c.saved_after op
  refine ⟨kept.map (·.key), ?_, ?_⟩
  · rw [Store.keys, saved, List.map_append]
  · rw [Kept.list_map (·.key) (fun _ _ => Kept.key) each]
    exact List.filter_sublist.map _

/-- Whether an operation starts a second dialogue for a key: a message of the user comes to the
draft although a session is saved for its key. -/
def startsSecond (c : Controller) : Operation → Bool
  | .submit => c.canSubmit && c.store.selection = .current && c.store.hasSaved c.store.draft.key
  | _ => false

/-- No key is that of two conversations. -/
structure Single (c : Controller) : Prop where
  nodup : c.store.keys.Nodup
  /-- A draft with a conversation is the only one for its key. -/
  draft : c.store.draft.hasContent = true → c.store.draft.key ∉ c.store.keys

/-- A draft that takes the place of another has no conversation. -/
theorem hasContent_of_replaced (replaced : c.replacesDraft op = true) :
    (c.after op).store.draft.hasContent = false := by
  cases c.change op with
  | leave _ _ _ draft _ _ =>
      rw [draft]
      rfl
  | abandon _ _ draft _ _ =>
      rw [draft]
      rfl
  | save _ draft _ _ =>
      rw [draft]
      rfl
  | keep still _ _ _ _ =>
      rw [replaced] at still
      cases still
  | _ => cases replaced

/-- An outcome makes a conversation of a draft only where nothing is saved for its key. -/
theorem Coherent.unsaved_of_complete (coherent : c.Coherent) {ticket : Ticket} {outcome : Outcome}
    (empty : c.store.draft.hasContent = false)
    (content : (c.complete ticket outcome).1.store.draft.hasContent = true) :
    c.store.hasSaved c.store.draft.key = false := by
  rcases c.complete_cases ticket outcome with ⟨p, -, -, result⟩ | ⟨q, waited, -, result⟩ | result
  · by_cases wanted : c.stillWants p = true
    · obtain ⟨-, -, wants⟩ := stillWants_iff.mp wanted
      exact (wantsOpener_iff.mp wants).2.2.1
    · rw [result, completeOpener_of_unwanted wanted] at content
      cases empty.symm.trans content
  · rw [result, coherent.hasContent_completeTurn waited, empty] at content
    cases content
  · rw [result, empty] at content
    cases content

/-- A draft gets its first conversation only where nothing is saved for its key, unless the user
starts a second one. -/
theorem Coherent.unsaved_of_started (coherent : c.Coherent) (allowed : c.startsSecond op = false)
    (empty : c.store.draft.hasContent = false) (still : c.replacesDraft op = false)
    (content : (c.after op).store.draft.hasContent = true) :
    c.store.hasSaved c.store.draft.key = false := by
  cases c.change op with
  | keep _ _ draft _ _ =>
      rw [draft, empty] at content
      cases content
  | delete store _ =>
      rw [store] at content
      cases empty.symm.trans content
  | rename store _ =>
      rw [store] at content
      cases empty.symm.trans content
  | ask words free store _ =>
      cases viewed : c.store.selection with
      | saved id =>
          rw [store, viewed] at content
          cases empty.symm.trans content
      | current =>
          have can : c.canSubmit = true := by
            simpa [canSubmit, free, Text.trim_eq_empty] using words
          simpa [startsSecond, can, viewed] using allowed
  | greet _ _ _ _ => exact coherent.unsaved_of_complete empty content
  | answer _ _ _ _ => exact coherent.unsaved_of_complete empty content
  | drop _ _ _ _ => exact coherent.unsaved_of_complete empty content
  | leave moves _ _ _ _ _ => simp [replacesDraft, moves] at still
  | abandon moves _ _ _ _ => simp [replacesDraft, moves] at still
  | save before _ _ _ =>
      rw [empty] at before
      cases before

namespace Single

/-- What is saved is the draft, whose key no session has. -/
theorem nodup_after (single : c.Single) (op : Operation) : (c.after op).store.keys.Nodup := by
  obtain ⟨kept, keys, sublist⟩ := c.keys_after op
  rw [keys]
  cases created : c.created op with
  | none => exact single.nodup.sublist sublist
  | some s =>
      obtain ⟨content, stamp, rfl⟩ := draft_of_created created
      refine List.nodup_cons.mpr ⟨?_, single.nodup.sublist sublist⟩
      intro member
      exact single.draft content (sublist.subset member)

theorem draft_after (single : c.Single) (keyed : c.Keyed) (coherent : c.Coherent)
    (allowed : c.startsSecond op = false) (content : (c.after op).store.draft.hasContent = true) :
    (c.after op).store.draft.key ∉ (c.after op).store.keys := by
  cases still : c.replacesDraft op with
  | true =>
      rw [hasContent_of_replaced still] at content
      cases content
  | false =>
      obtain ⟨kept, keys, sublist⟩ := c.keys_after op
      rw [keys, created_of_still still, (draft_of_still still).1]
      intro member
      have old : c.store.draft.key ∈ c.store.keys := sublist.subset member
      cases before : c.store.draft.hasContent with
      | true => exact single.draft before old
      | false =>
          have unsaved := coherent.unsaved_of_started allowed before still content
          rw [(keyed.hasSaved_iff keyed.draft_normal).mpr old] at unsaved
          cases unsaved

theorem after (single : c.Single) (keyed : c.Keyed) (coherent : c.Coherent)
    (allowed : c.startsSecond op = false) : (c.after op).Single :=
  ⟨single.nodup_after op, single.draft_after keyed coherent allowed⟩

/-- Sessions for one key have the same, so there is one at most. -/
theorem length_filter_isFor_le (single : c.Single) (keyed : c.Keyed) (key : SessionKey) :
    (c.store.saved.filter (·.isFor key)).length ≤ 1 := by
  have nodup : ((c.store.saved.filter (·.isFor key)).map (·.key)).Nodup :=
    single.nodup.sublist (List.filter_sublist.map _)
  have each : ∀ s ∈ c.store.saved.filter (·.isFor key), s.key.Normal ∧ s.isFor key = true := by
    intro s member
    obtain ⟨saved, fits⟩ := List.mem_filter.mp member
    exact ⟨keyed.saved s saved, fits⟩
  revert nodup each
  generalize c.store.saved.filter (·.isFor key) = sessions
  intro nodup each
  match sessions with
  | [] => exact Nat.zero_le 1
  | [_] => exact Nat.le_refl 1
  | a :: b :: rest =>
      obtain ⟨own, fits⟩ := each a List.mem_cons_self
      obtain ⟨own', fits'⟩ := each b (List.mem_cons_of_mem _ List.mem_cons_self)
      have same := SavedSession.key_eq_of_isFor own own' fits fits'
      simp [same] at nodup

end Single

end Controller

namespace Trail

variable {ops : List Operation}

theorem single_run (tool : Tool) (axis : Option String)
    (allowed : (start tool axis).Along (fun t op => t.controller.startsSecond op = false) ops) :
    ((start tool axis).run ops).controller.Single ∧
      ((start tool axis).run ops).controller.Keyed := by
  have kept := run_induction (t := start tool axis) (P := fun t =>
    t.controller.Single ∧ t.controller.Keyed ∧ t.controller.Coherent) ?_ ?_ allowed
  · obtain ⟨single, keyed, -⟩ := kept
    exact ⟨single, keyed⟩
  · rintro t op ⟨single, keyed, coherent⟩ allowed
    exact ⟨single.after keyed coherent allowed, keyed.after op, coherent.after op⟩
  · refine ⟨⟨List.nodup_nil, ?_⟩, (Reachable.opened tool axis).keyed, coherent_run tool axis []⟩
    intro content
    cases content

/-- **One dialogue for a tool and an axis.** In a run where no message of the user starts a second
dialogue for a key, no two saved sessions are for one key, and a draft with a conversation has no
session saved for its key. -/
theorem one_dialogue_per_key (tool : Tool) (axis : Option String)
    (allowed : (start tool axis).Along (fun t op => t.controller.startsSecond op = false) ops) :
    let store := ((start tool axis).run ops).controller.store
    (∀ key, (store.saved.filter (·.isFor key)).length ≤ 1) ∧
      (store.draft.hasContent = true → store.hasSaved store.draft.key = false) := by
  obtain ⟨single, keyed⟩ := single_run tool axis allowed
  refine ⟨single.length_filter_isFor_le keyed, ?_⟩
  intro content
  have normal : ((start tool axis).run ops).controller.store.draft.key.Normal := by
    rw [keyed.draft]
    exact keyed.normal
  rw [Bool.eq_false_iff]
  intro saved
  exact single.draft content ((keyed.hasSaved_iff normal).mp saved)

/-- Back and forth between two tools, with a save on the user's wish, messages in a saved session
and late replies: there is one session for each. -/
theorem one_dialogue_per_key_back_and_forth :
    let ops := [.ensureOpener, .setInput "What now?", .submit,
      .navigate ⟨.resulting, none⟩ ⟨⟨1⟩, ⟨0, 0⟩⟩, .complete ⟨2⟩ (.ok ⟨"Wait.", none⟩),
      .complete ⟨3⟩ (.ok ⟨"Hello.", none⟩), .save ⟨⟨2⟩, ⟨0, 0⟩⟩,
      .navigate ⟨.debrief, none⟩ ⟨⟨3⟩, ⟨0, 0⟩⟩, .setInput "And then?", .submit,
      .navigate ⟨.resulting, none⟩ ⟨⟨3⟩, ⟨0, 0⟩⟩, .complete ⟨1⟩ (.ok ⟨"Late.", none⟩)]
    let store := ((start .debrief none).run ops).controller.store
    (start .debrief none).Along (fun t op => t.controller.startsSecond op = false) ops ∧
      store.saved.length = 2 ∧ ∀ key, (store.saved.filter (·.isFor key)).length ≤ 1 := by
  intro ops store
  have allowed : (start .debrief none).Along
      (fun t op => t.controller.startsSecond op = false) ops := by decide
  have two : store.saved.length = 2 := by decide
  exact ⟨allowed, two, (one_dialogue_per_key .debrief none allowed).1⟩

end Trail
end Dialogue
end Counsel
