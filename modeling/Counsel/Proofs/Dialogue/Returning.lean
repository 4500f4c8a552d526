import Counsel.Proofs.Dialogue.Arrival

/-!
Going about and coming back.

A navigation to where the dialogue is already does nothing. One to another place saves the draft at
most and leaves an empty one, from which the next navigations save nothing. So navigations one after
another (`tour`) save what the first of them saves that moves (`Controller.savedOn`), however many
they are and wherever they lead.

Coming back, what was left is on view: the session that the draft was saved as, or one that has the
same messages. A draft that only repeats an earlier session, not the latest for its key, is not
saved again; then the latest one is on view (`repeated_draft_lost_from_view`).

* `tour_saves_once`: what navigations one after another save, and that a second one to the same
  place does nothing.
* `returns_to_conversation`: what is on view after going away and coming back.
-/

namespace Counsel

namespace Store

/-- The draft has the messages of a session saved for its key, but not those of the latest one. -/
def repeatsEarlier (store : Store) : Prop :=
  store.draftIsSaved = true ∧
    ∀ s ∈ store.find? store.draft.key, s.messages ≠ store.draft.messages

instance (store : Store) : Decidable store.repeatsEarlier := by
  unfold repeatsEarlier; infer_instance

end Store

namespace Dialogue

/-- Whether an operation is a navigation. -/
def Operation.isNavigate : Operation → Bool
  | .navigate _ _ => true
  | _ => false

/-- Navigations one after another. -/
def tour (visits : List (Navigation × Stamp)) : List Operation :=
  visits.map fun (dest, stamp) => .navigate dest stamp

@[simp] theorem tour_cons (dest : Navigation) (stamp : Stamp)
    (visits : List (Navigation × Stamp)) :
    tour ((dest, stamp) :: visits) = .navigate dest stamp :: tour visits := rfl

namespace Controller

variable {c : Controller} {dest : Navigation} {stamp : Stamp}

/-- A navigation leaves the saved sessions as they are, behind the one it may save. -/
theorem saved_navigate (c : Controller) (dest : Navigation) (stamp : Stamp) :
    (c.after (.navigate dest stamp)).store.saved =
      (c.created (.navigate dest stamp)).toList ++ c.store.saved := by
  cases c.change (.navigate dest stamp) with
  | keep still _ _ saved _ =>
      rw [saved, created_of_still still]
      rfl
  | leave moves content unsaved _ saved _ =>
      rw [saved, created_of_leave moves content unsaved]
      rfl
  | abandon moves spare _ saved _ =>
      rw [saved, created_of_abandon moves spare]
      rfl

/-- A navigation to another place leaves no conversation in the draft. -/
theorem hasContent_navigate (moves : dest.normalise ≠ c.navigation) :
    (c.after (.navigate dest stamp)).store.draft.hasContent = false := by
  rw [(c.after_navigate stamp moves).1]
  rfl

/-- Without a conversation in the draft, a navigation leaves none there and saves nothing. -/
theorem navigate_of_empty (empty : c.store.draft.hasContent = false) (dest : Navigation)
    (stamp : Stamp) :
    c.created (.navigate dest stamp) = none ∧
      (c.after (.navigate dest stamp)).store.draft.hasContent = false := by
  by_cases stays : dest.normalise = c.navigation
  · refine ⟨created_of_stays stays, ?_⟩
    rw [after_navigate_of_stays stamp stays]
    exact empty
  · refine ⟨created_of_abandon stays ?_, hasContent_navigate stays⟩
    intro content
    rw [empty] at content
    cases content

/-- What navigations one after another save: what the first of them saves that moves. -/
def savedOn (c : Controller) (visits : List (Navigation × Stamp)) : Option SavedSession :=
  (visits.find? fun visit => visit.1.normalise ≠ c.navigation).bind fun visit =>
    c.created (.navigate visit.1 visit.2)

/-- Nothing is saved of a draft without a conversation, nor of one that is saved already. -/
theorem savedOn_eq_none {visits : List (Navigation × Stamp)}
    (spare : c.store.draft.hasContent = true → c.store.draftIsSaved = true) :
    c.savedOn visits = none := by
  refine Option.bind_eq_none_iff.mpr fun visit first => ?_
  have moves : visit.1.normalise ≠ c.navigation := by simpa using List.find?_some first
  exact created_of_abandon moves spare

/-- What is saved on the way is the draft. -/
theorem draft_of_savedOn {visits : List (Navigation × Stamp)} {s : SavedSession}
    (saved : c.savedOn visits = some s) :
    s.key = c.store.draft.key ∧ s.messages = c.store.draft.messages := by
  obtain ⟨visit, -, created⟩ := Option.bind_eq_some_iff.mp saved
  obtain ⟨-, stamp, rfl⟩ := draft_of_created created
  exact ⟨rfl, rfl⟩

/-- The conversation that is left is found under its key, as it is saved or was saved before. Only
where it repeats an earlier session, the latest for the key has other messages. -/
theorem found_of_leaving (content : c.store.draft.hasContent = true)
    (moves : dest.normalise ≠ c.navigation) (stamp : Stamp) :
    let left := (c.after (.navigate dest stamp)).store
    ∃ s, left.find? c.store.draft.key = some s ∧
      (¬ c.store.repeatsEarlier → s.messages = c.store.draft.messages) ∧
      (c.store.repeatsEarlier → left.saved = c.store.saved) := by
  intro left
  have saved : left.saved = _ := c.saved_navigate dest stamp
  by_cases known : c.store.draftIsSaved = true
  · rw [created_of_abandon moves fun _ => known] at saved
    have same : left.find? c.store.draft.key = c.store.find? c.store.draft.key := by
      rw [Store.find?, saved]
      rfl
    obtain ⟨copy, member, own, -⟩ := Store.draftIsSaved_iff.mp known
    obtain ⟨s, found⟩ : ∃ s, c.store.find? c.store.draft.key = some s :=
      Option.isSome_iff_exists.mp (List.find?_isSome.mpr ⟨copy, member, own⟩)
    refine ⟨s, same.trans found, ?_, fun _ => saved⟩
    intro latest
    by_contra differs
    refine latest ⟨known, fun s' found' => ?_⟩
    cases found.symm.trans found'
    exact differs
  · have unsaved : c.store.draftIsSaved = false := by simpa using known
    rw [created_of_leave moves content unsaved] at saved
    refine ⟨c.store.sessionOfDraft stamp, ?_, fun _ => rfl, fun again => absurd again.1 known⟩
    rw [Store.find?, saved]
    exact List.find?_cons_of_pos (by simp [Store.sessionOfDraft, SavedSession.isFor])

/-- The way back saves nothing, and ends at the session that was found for the draft on leaving. -/
theorem Coherent.after_return (coherent : c.Coherent) (keyed : c.Keyed)
    (leaves : dest.normalise ≠ c.navigation) (stamp' : Stamp) :
    let left := c.after (.navigate dest stamp)
    let back := left.after (.navigate c.navigation stamp')
    left.created (.navigate c.navigation stamp') = none ∧
      back.store.saved = left.store.saved ∧
      back.store.selection =
        ((left.store.find? c.store.draft.key).map (.saved ·.id)).getD .current := by
  intro left back
  have unmade : left.created (.navigate c.navigation stamp') = none :=
    (navigate_of_empty (hasContent_navigate leaves) _ _).1
  have saved : back.store.saved = left.store.saved := by
    have after := left.saved_navigate c.navigation stamp'
    rwa [unmade] at after
  refine ⟨unmade, saved, ?_⟩
  have returns : c.navigation.normalise ≠ left.navigation := by
    rw [keyed.normalise_navigation, c.navigation_after]
    exact leaves.symm
  obtain ⟨-, -, selection, -⟩ := (coherent.after _).after_navigate stamp' returns
  rw [keyed.normalise_navigation, ← keyed.draft] at selection
  have found : back.store.find? c.store.draft.key = left.store.find? c.store.draft.key := by
    rw [Store.find?, saved]
    rfl
  rw [← found]
  exact selection

end Controller

namespace Trail

variable {t : Trail} {dest : Navigation} {stamp : Stamp}

theorem next_navigate_of_stays (stays : dest.normalise = t.controller.navigation) :
    t.next (.navigate dest stamp) = t := by
  rw [next, Controller.after_navigate_of_stays stamp stays, Controller.created_of_stays stays]
  rfl

/-! ### Going about -/

/-- Without a conversation in the draft, navigations save nothing. -/
theorem created_tour_of_empty (empty : t.controller.store.draft.hasContent = false)
    (visits : List (Navigation × Stamp)) : collect Controller.created t (tour visits) = [] := by
  induction visits generalizing t with
  | nil => rfl
  | cons visit visits ih =>
      obtain ⟨dest, stamp⟩ := visit
      obtain ⟨unmade, still⟩ := Controller.navigate_of_empty empty dest stamp
      rw [tour_cons, collect, unmade, ih still]
      rfl

/-- Navigations save what the first of them saves that moves. -/
theorem created_tour (t : Trail) (visits : List (Navigation × Stamp)) :
    collect Controller.created t (tour visits) = (t.controller.savedOn visits).toList := by
  induction visits with
  | nil => rfl
  | cons visit visits ih =>
      obtain ⟨dest, stamp⟩ := visit
      rw [tour_cons, collect, Controller.savedOn]
      by_cases stays : dest.normalise = t.controller.navigation
      · rw [next_navigate_of_stays stays, Controller.created_of_stays stays,
          List.find?_cons_of_neg (by simpa using stays)]
        exact ih
      · have rest : collect Controller.created (t.next (.navigate dest stamp)) (tour visits) = [] :=
          created_tour_of_empty (Controller.hasContent_navigate stays) visits
        rw [rest, List.append_nil, List.find?_cons_of_pos (by simpa using stays)]
        rfl

/-- What navigations save stands before what was saved, the last first. -/
theorem saved_tour (t : Trail) (visits : List (Navigation × Stamp)) :
    (t.run (tour visits)).controller.store.saved =
      (collect Controller.created t (tour visits)).reverse ++ t.controller.store.saved := by
  induction visits generalizing t with
  | nil => rfl
  | cons visit visits ih =>
      obtain ⟨dest, stamp⟩ := visit
      have first : (t.next (.navigate dest stamp)).controller.store.saved = _ :=
        t.controller.saved_navigate dest stamp
      rw [tour_cons, run_cons, collect, ih, first, List.reverse_append, List.append_assoc]
      cases t.controller.created (.navigate dest stamp) <;> rfl

/-- Only navigations lead to another place. -/
theorem navigation_run {ops : List Operation} (stays : ∀ op ∈ ops, op.isNavigate = false) :
    (t.run ops).controller.navigation = t.controller.navigation := by
  induction ops generalizing t with
  | nil => rfl
  | cons op ops ih =>
      have other := stays op List.mem_cons_self
      refine (ih fun op member => stays op (.tail _ member)).trans ?_
      refine (t.controller.navigation_after op).trans ?_
      cases op with
      | navigate dest stamp => cases other
      | _ => rfl

/-- **Navigations save a draft once.** Whatever the dialogue, navigations one after another put at
most one session before those that are saved, with the draft's key and messages; and none if the
draft has no conversation, or if a session for its key has exactly its messages. A navigation to
where the last one led sends nothing and changes nothing, whatever else was done between the two. -/
theorem tour_saves_once (t : Trail) (visits : List (Navigation × Stamp)) :
    let store := t.controller.store
    (∃ new, (t.run (tour visits)).controller.store.saved = new ++ store.saved ∧
        new = collect Controller.created t (tour visits) ∧ new.length ≤ 1 ∧
        (∀ s ∈ new, s.key = store.draft.key ∧ s.messages = store.draft.messages) ∧
        (store.draft.hasContent = false ∨ (∃ s ∈ store.saved, s.isFor store.draft.key = true ∧
            s.messages = store.draft.messages) → new = [])) ∧
      ∀ before dest stamp between again stamp', (∀ op ∈ between, op.isNavigate = false) →
        again.normalise = dest.normalise →
        let c := (t.run (before ++ .navigate dest stamp :: between)).controller
        c.perform (.navigate again stamp') = (c, none) := by
  intro store
  have created := t.created_tour visits
  constructor
  · refine ⟨_, ?_, rfl, ?_, ?_, ?_⟩
    · rw [saved_tour, created]
      cases t.controller.savedOn visits <;> rfl
    · rw [created]
      exact Option.length_toList_le
    · intro s member
      rw [created] at member
      exact Controller.draft_of_savedOn (Option.mem_toList.mp member)
    · intro spare
      rw [created, Controller.savedOn_eq_none]
      · rfl
      · intro content
        rcases spare with empty | known
        · rw [empty] at content
          cases content
        · exact Store.draftIsSaved_iff.mpr known
  · intro before dest stamp between again stamp' others same c
    have there : c.navigation = dest.normalise := by
      show (t.run _).controller.navigation = _
      rw [run_append, run_cons, navigation_run others]
      exact Controller.navigation_after _ _
    exact Controller.perform_navigate_of_stays stamp' (same.trans there.symm)

/-- A draft is left by way of a goal tool and saved once; then to go on to the same axis with other
blanks around it does nothing. -/
theorem tour_saves_once_there_and_back :
    let stamp (number : BitVec 128) : Stamp := ⟨⟨number⟩, ⟨0, 0⟩⟩
    let t := (start .luckVsSkill (some "work")).run [.setInput "Was it luck?", .submit]
    let there : List (Navigation × Stamp) := [(⟨.luckVsSkill, some " work"⟩, stamp 1),
      (⟨.smartGoal, some "work"⟩, stamp 2), (⟨.luckVsSkill, some "home"⟩, stamp 3)]
    let back := (t.run (tour there ++ [.navigate ⟨.luckVsSkill, some "work "⟩ (stamp 4)])).controller
    (t.run (tour there)).controller.store.saved.length = 1 ∧
      back.perform (.navigate ⟨.luckVsSkill, some " work "⟩ (stamp 5)) = (back, none) := by
  intro stamp t there back
  obtain ⟨⟨new, saved, -, once, -⟩, again⟩ := tour_saves_once t there
  constructor
  · have nothing : t.controller.store.saved = [] := by decide +kernel
    have something : (t.run (tour there)).controller.store.saved ≠ [] := by decide +kernel
    rw [nothing, List.append_nil] at saved
    rw [saved] at something ⊢
    exact Nat.le_antisymm once (List.length_pos_iff.mpr something)
  · have others : ∀ op ∈ ([] : List Operation), op.isNavigate = false := by simp
    have same : (⟨.luckVsSkill, some " work "⟩ : Navigation).normalise =
        (⟨.luckVsSkill, some "work "⟩ : Navigation).normalise := by decide +kernel
    exact again (tour there) _ (stamp 4) [] _ (stamp 5) others same

/-! ### Coming back -/

/-- **Coming back shows what was left.** In every reachable dialogue with a conversation in its
draft, a navigation to another key and one back, with a new identifier, put a saved session on view.
It has exactly the messages of the draft, unless the draft repeats an earlier session: then nothing
is saved, and the latest session for the key is on view as it was. -/
theorem returns_to_conversation {away : Navigation} (reached : t.Reachable)
    (fresh : t.Fresh (.navigate away stamp))
    (content : t.controller.store.draft.hasContent = true)
    (moves : away.normalise.key ≠ t.controller.navigation.key) (stamp' : Stamp) :
    let store := t.controller.store
    let store' := (t.run [.navigate away stamp,
      .navigate t.controller.navigation stamp']).controller.store
    ∃ s ∈ store'.saved, store'.selection = .saved s.id ∧ store'.activeMessages = s.messages ∧
      (¬ store.repeatsEarlier → s.messages = store.draft.messages) ∧
      (store.repeatsEarlier →
        store'.saved = store.saved ∧ store.find? store.draft.key = some s) := by
  intro store store'
  have leaves : away.normalise ≠ t.controller.navigation := fun same =>
    moves (congrArg Navigation.key same)
  obtain ⟨s, found, same, earlier⟩ := Controller.found_of_leaving content leaves stamp
  obtain ⟨unmade, saved, selection⟩ := reached.coherent.after_return reached.keyed leaves stamp'
  have recorded : (t.run [.navigate away stamp,
      .navigate t.controller.navigation stamp']).Recorded := by
    have fresh' : (t.next (.navigate away stamp)).Fresh
        (.navigate t.controller.navigation stamp') := by
      intro s created
      cases unmade.symm.trans created
    exact ((reached.step fresh).step fresh').recorded
  have member : s ∈ store'.saved := by
    have there := List.mem_of_find?_eq_some found
    rwa [← saved] at there
  have viewed : store'.selection = .saved s.id := by
    rw [found] at selection
    exact selection
  refine ⟨s, member, viewed, Store.activeMessages_of_mem recorded.nodup member viewed, same, ?_⟩
  intro again
  refine ⟨saved.trans (earlier again), ?_⟩
  rw [Store.find?, earlier again] at found
  exact found

/-- One conversation is saved for the key, and another is left for a goal tool: it is that one that
is on view again. -/
theorem returns_to_conversation_of_several :
    let stamp (number : BitVec 128) : Stamp := ⟨⟨number⟩, ⟨0, 0⟩⟩
    let t := (start .debrief none).run [.setInput "What now?", .submit, .save (stamp 1),
      .setInput "And then?", .submit]
    let away : Navigation := ⟨.smartGoal, some "work"⟩
    let store' := (t.run [.navigate away (stamp 2), .navigate t.controller.navigation
      (stamp 3)]).controller.store
    t.Reachable ∧ t.Fresh (.navigate away (stamp 2)) ∧
      t.controller.store.draft.hasContent = true ∧
      away.normalise.key ≠ t.controller.navigation.key ∧
      store'.activeMessages = [.system readyMessage, .user "And then?"] := by
  intro stamp t away store'
  have reached : t.Reachable := (Reachable.opened .debrief none).run (by decide)
  have fresh : t.Fresh (.navigate away (stamp 2)) := by decide
  have content : t.controller.store.draft.hasContent = true := by decide
  have moves : away.normalise.key ≠ t.controller.navigation.key := by decide
  obtain ⟨s, -, -, viewed, same, -⟩ :=
    returns_to_conversation reached fresh content moves (stamp 3)
  have new : ¬ t.controller.store.repeatsEarlier := by decide
  refine ⟨reached, fresh, content, moves, ?_⟩
  rw [viewed, same new]
  decide

/-- The user begins a third conversation as the first one began. It repeats that session and is not
saved again, and back there the second one is on view. -/
theorem repeated_draft_lost_from_view :
    let stamp (number : BitVec 128) : Stamp := ⟨⟨number⟩, ⟨0, 0⟩⟩
    let t := (start .debrief none).run [.setInput "What now?", .submit, .save (stamp 1),
      .setInput "And then?", .submit, .save (stamp 2), .navigate ⟨.resulting, none⟩ (stamp 3),
      .navigate ⟨.debrief, none⟩ (stamp 4), .select .current, .setInput "What now?", .submit]
    let away : Navigation := ⟨.resulting, none⟩
    let store := t.controller.store
    let store' := (t.run [.navigate away (stamp 5), .navigate t.controller.navigation
      (stamp 6)]).controller.store
    t.Reachable ∧ t.Along Fresh [.navigate away (stamp 5), .navigate t.controller.navigation
        (stamp 6)] ∧
      store.selection = .current ∧ store.draft.hasContent = true ∧
      away.normalise.key ≠ t.controller.navigation.key ∧
      store'.activeMessages = [.system readyMessage, .user "And then?"] ∧
      ¬ ∃ s ∈ store'.saved, store'.selection = .saved s.id ∧
        s.messages = store.draft.messages := by
  intro stamp t away store store'
  have reached : t.Reachable := (Reachable.opened .debrief none).run (by decide)
  exact ⟨reached, by decide⟩

end Trail
end Dialogue
end Counsel
