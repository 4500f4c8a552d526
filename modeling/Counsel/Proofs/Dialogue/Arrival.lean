import Counsel.Proofs.Dialogue.Keys
import Counsel.Proofs.Dialogue.Openers

/-!
What a navigation leads to. Arriving on a tool and an axis, the dialogue has an empty draft for them
and no error. On view is the session made last of those that suit them and are still there
(`Trail.latest`), which the store finds because it keeps its sessions in the order in which they
were made (`Trail.Recorded`). Where there is none, the draft is on view, and its opener is asked
for: no opener that was fetched or is on its way for the draft left behind stands in its place
(`Controller.wantsOpener_of_enter`, `Controller.not_awaitsOpener_of_enter`).

* `arrives`: all this of every navigation to another place, in every run.
-/

namespace Counsel

namespace Store

variable {store : Store}

theorem holds_of_find? {key : SessionKey} {s : SavedSession} (found : store.find? key = some s) :
    store.holds (.saved s.id) = true :=
  holds_saved_iff.mpr (List.mem_map_of_mem (List.mem_of_find?_eq_some found))

end Store

namespace SavedSession

/-- A session suits a navigation if it is of that tool and axis; those of a goal tool suit every
axis. -/
def Suits (s : SavedSession) (n : Navigation) : Prop :=
  s.tool = n.tool ∧ (n.tool = .smartGoal ∨ s.axis = n.axis)

instance (s : SavedSession) (n : Navigation) : Decidable (s.Suits n) := by
  unfold Suits; infer_instance

theorem isFor_key_iff {s : SavedSession} {n : Navigation} : s.isFor n.key = true ↔ s.Suits n := by
  simp only [isFor, Tool.isGoal, Bool.and_eq_true, Bool.or_eq_true, decide_eq_true_eq]
  rfl

end SavedSession

/-- In a list without repetition, what is looked for in vain outside a part of it is found in that
part. -/
theorem find?_of_sublist {α : Type} {p : α → Bool} {part whole : List α} (sub : part.Sublist whole)
    (nodup : whole.Nodup) (inside : ∀ x ∈ whole, p x = true → x ∈ part) :
    whole.find? p = part.find? p := by
  induction sub with
  | slnil => rfl
  | cons x sub ih =>
      obtain ⟨new, nodup⟩ := List.nodup_cons.mp nodup
      have other : ¬ p x = true := fun holds =>
        new (sub.subset (inside x List.mem_cons_self holds))
      rw [List.find?_cons_of_neg other]
      exact ih nodup fun y member => inside y (.tail _ member)
  | cons_cons x sub ih =>
      obtain ⟨new, nodup⟩ := List.nodup_cons.mp nodup
      rw [List.find?_cons, List.find?_cons]
      split
      · rfl
      · refine ih nodup fun y member holds => ?_
        rcases List.mem_cons.mp (inside y (.tail _ member) holds) with rfl | rest
        · exact absurd member new
        · exact rest

namespace Dialogue

namespace Controller

variable {c : Controller} {dest : Navigation} {stamp : Stamp}

/-! ### Entering -/

theorem selection_enter (c : Controller) (dest : Navigation) :
    (c.enter dest).store.selection =
      (((c.enter dest).store.find? dest.key).map (.saved ·.id)).getD .current := by
  have same : (c.enter dest).store.find? dest.key = c.store.find? dest.key := rfl
  rw [same]
  simp only [enter]
  have found : (c.store.resetDraft dest.key []).find? dest.key = c.store.find? dest.key := rfl
  rw [found]
  cases known : c.store.find? dest.key with
  | none => exact Store.selection_select _ _
  | some s => exact (Store.selection_select _ _).trans (if_pos (Store.holds_of_find? known))

/-- Where nothing is saved for it, an opener is wanted for the new draft. -/
theorem wantsOpener_of_enter (unfetched : c.initialized = [])
    (unsaved : (c.enter dest).store.hasSaved dest.key = false) :
    (c.enter dest).wantsOpener = true := by
  have nothing : (c.enter dest).store.find? dest.key = none := by
    simpa [Store.hasSaved] using unsaved
  refine wantsOpener_iff.mpr ⟨?_, rfl, unsaved, ?_⟩
  · rw [c.selection_enter, nothing]
    rfl
  · show _ ∉ c.initialized
    rw [unfetched]
    exact List.not_mem_nil

/-- No opener that was asked for before is for the new draft. -/
theorem not_awaitsOpener_of_enter (old : ∀ p ∈ c.opener, p.epoch ≤ c.epoch) :
    (c.enter dest).awaitsOpener = false := by
  rw [← Bool.not_eq_true, awaitsOpener_iff]
  rintro ⟨p, waited, epoch, -⟩
  have before := old p waited
  have now : p.epoch = c.epoch + 1 := epoch
  omega

/-- Where an opener is wanted and none is on its way, it is asked for. -/
theorem sent_ensureOpener (wanted : c.wantsOpener = true) (unawaited : c.awaitsOpener = false) :
    c.ensureOpener.2 = some ⟨c.nextTicket, .opener,
      .opener c.store.draft.key.tool Selection.current.wireId⟩ := by
  simp [ensureOpener, wanted, unawaited]

/-- Where a dialogue comes to whose parts fit. -/
theorem Coherent.after_navigate (coherent : c.Coherent) (stamp : Stamp)
    (moves : dest.normalise ≠ c.navigation) :
    let c' := c.after (.navigate dest stamp)
    let key := dest.normalise.key
    c'.store.draft = .empty key ∧ c'.error = none ∧
      c'.store.selection = ((c'.store.find? key).map (.saved ·.id)).getD .current ∧
      c.sent (.navigate dest stamp) = if c'.store.hasSaved key then none
        else some ⟨c.nextTicket, .opener, .opener dest.tool Selection.current.wireId⟩ := by
  intro c' key
  obtain ⟨store, -⟩ := c.after_navigate stamp moves
  obtain ⟨left, initialized, sending, frame⟩ := c.leaveDraft_frame stamp
  have result := perform_navigate stamp moves
  refine ⟨by rw [store]; rfl, ?_, by rw [store]; exact selection_enter _ _, ?_⟩
  · show (c.perform (.navigate dest stamp)).1.error = none
    rw [result]
    simp only
    split
    · rfl
    · rw [ensureOpener_error]
      rfl
  · rw [store, sent, result]
    simp only
    split
    · rfl
    · rename_i unsaved
      have unfetched := coherent.leaveDraft_initialized stamp
      have old : ∀ p ∈ (c.leaveDraft stamp).opener, p.epoch ≤ (c.leaveDraft stamp).epoch := by
        rw [frame]
        exact coherent.opener
      rw [sent_ensureOpener (wantsOpener_of_enter unfetched (by simpa using unsaved))
        (not_awaitsOpener_of_enter old), frame]
      rfl

end Controller

namespace Trail

variable {t : Trail} {op : Operation}

/-- A workspace just opened on a navigation. -/
def openedOn (navigation : Navigation) : Trail := ⟨.new navigation, []⟩

/-- The session that was made last of those that suit a navigation and are still there. -/
def latest (t : Trail) (n : Navigation) : Option SessionId :=
  t.given.find? fun id => t.controller.store.saved.any fun s => s.id = id ∧ s.Suits n

/-- No identifier was given twice, and the saved sessions stand in the order in which they were
made. -/
structure Recorded (t : Trail) : Prop where
  distinct : t.given.Nodup
  order : t.controller.store.ids.Sublist t.given

theorem Recorded.next (recorded : t.Recorded) (fresh : t.Fresh op) : (t.next op).Recorded where
  distinct := by
    cases created : t.controller.created op with
    | none => simpa [Trail.next, created] using recorded.distinct
    | some s =>
        have new : s.id ∉ t.given := fresh s created
        simpa [Trail.next, created] using ⟨new, recorded.distinct⟩
  order := by
    obtain ⟨kept, saved, each⟩ := t.controller.saved_after op
    have fewer : (kept.map (·.id)).Sublist t.controller.store.ids := by
      rw [Kept.list_ids each]
      exact List.filter_sublist.map _
    simp only [Trail.next, Store.ids, saved, List.map_append]
    exact List.Sublist.append_left (fewer.trans recorded.order) _

theorem Reachable.recorded (reached : t.Reachable) : t.Recorded := by
  induction reached with
  | opened tool axis => exact ⟨List.nodup_nil, List.nil_sublist _⟩
  | step _ fresh ih => exact ih.next fresh

theorem Recorded.nodup (recorded : t.Recorded) : t.controller.store.ids.Nodup :=
  recorded.distinct.sublist recorded.order

/-- The session made last for a navigation is the one that the store finds for its key. -/
theorem Recorded.latest_eq (recorded : t.Recorded) (n : Navigation) :
    t.latest n = (t.controller.store.find? n.key).map (·.id) := by
  rw [latest, find?_of_sublist recorded.order recorded.distinct, Store.ids, List.find?_map]
  · congr 1
    rw [← List.head?_filter, Store.find?, ← List.head?_filter]
    congr 1
    refine List.filter_congr fun s member => ?_
    rw [Function.comp_apply, Bool.eq_iff_iff, List.any_eq_true, SavedSession.isFor_key_iff]
    constructor
    · rintro ⟨other, there, suits⟩
      obtain ⟨same, suits⟩ := of_decide_eq_true suits
      rwa [List.inj_on_of_nodup_map recorded.nodup there member same] at suits
    · intro suits
      exact ⟨s, member, decide_eq_true ⟨rfl, suits⟩⟩
  · intro id _ suited
    obtain ⟨s, member, suits⟩ := List.any_eq_true.mp suited
    obtain ⟨rfl, -⟩ := of_decide_eq_true suits
    exact List.mem_map_of_mem member

/-- **A navigation to another place arrives there.** After it, in every run whose identifiers are
new, the dialogue is on the normalised navigation, with an empty draft for its tool and axis and
without an error. On view is the session made last of those that suit it and are still there, or the
draft if there is none. An opener for the tool is asked for exactly if no saved session suits it:
with the next ticket, and with a message of its own and no history. -/
theorem arrives (navigation : Navigation) (ops : List Operation) (dest : Navigation) (stamp : Stamp)
    (fresh : (openedOn navigation).Along Fresh (ops ++ [.navigate dest stamp]))
    (moves : dest.normalise ≠ ((openedOn navigation).run ops).controller.navigation) :
    let t := (openedOn navigation).run ops
    let t' := t.next (.navigate dest stamp)
    let c' := t'.controller
    let n := dest.normalise
    n = ⟨dest.tool,
        if dest.tool = .smartGoal then none else (dest.axis.map Text.trim).filter (· ≠ "")⟩ ∧
      c'.navigation = n ∧ c'.store.draft = ⟨⟨n.tool, n.axis⟩, []⟩ ∧ c'.error = none ∧
      c'.store.selection = ((t'.latest n).map .saved).getD .current ∧
      t.controller.sent (.navigate dest stamp) =
        if ∃ s ∈ c'.store.saved, s.Suits n then none
        else some {
          ticket := ⟨t.controller.lastTicket + 1⟩
          kind := .opener
          request := {
            sessionId := "current"
            message := "__init__"
            history := []
            tool := some n.tool.slug
            systemOverride := none } } := by
  intro t t' c' n
  have coherent : t.controller.Coherent := by
    refine run_keeps (fun _ op coherent => coherent.after op) ?_ ops
    exact ⟨Or.inl rfl, by simp [openedOn, Controller.new], by simp [openedOn, Controller.new]⟩
  have recorded : t'.Recorded := by
    have recorded : ((openedOn navigation).run (ops ++ [.navigate dest stamp])).Recorded :=
      run_induction (fun _ _ recorded fresh => recorded.next fresh)
        ⟨List.nodup_nil, List.nil_sublist _⟩ fresh
    rwa [run_concat] at recorded
  obtain ⟨draft, error, selection, sent⟩ := coherent.after_navigate stamp moves
  refine ⟨Navigation.of_eq _ _, t.controller.navigation_after _, draft, error, ?_, ?_⟩
  · rw [recorded.latest_eq, Option.map_map]
    exact selection
  · rw [sent]
    congr 1
    rw [Store.hasSaved_eq_any, List.any_eq_true]
    simp only [SavedSession.isFor_key_iff]
    rfl

/-- Back where a conversation was left that was saved on the way, it is on view, and no opener is
asked for. -/
theorem arrives_back :
    let work : Navigation := ⟨.luckVsSkill, some "work"⟩
    let home : Navigation := ⟨.luckVsSkill, some " home"⟩
    let stamp (number : BitVec 128) : Stamp := ⟨⟨number⟩, ⟨0, 0⟩⟩
    let ops : List Operation :=
      [.setInput "Was it luck?", .submit, .navigate home (stamp 7), .setInput "And here?", .submit]
    let t := (openedOn work).run ops
    let back := Operation.navigate work (stamp 8)
    (openedOn work).Along Fresh (ops ++ [back]) ∧ work.normalise ≠ t.controller.navigation ∧
      (t.next back).controller.store.selection = .saved ⟨7⟩ ∧ t.controller.sent back = none := by
  intro work home stamp ops t back
  have fresh : (openedOn work).Along Fresh (ops ++ [back]) := by decide +kernel
  have moves : work.normalise ≠ t.controller.navigation := by decide +kernel
  obtain ⟨-, -, -, -, selection, sent⟩ := arrives work ops work (stamp 8) fresh moves
  refine ⟨fresh, moves, ?_, ?_⟩
  · exact selection.trans (by decide +kernel)
  · exact sent.trans (by decide +kernel)

end Trail
end Dialogue
end Counsel
