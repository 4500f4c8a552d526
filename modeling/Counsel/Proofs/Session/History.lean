import Counsel.Proofs.Run
import Counsel.Proofs.Session.Store
import Counsel.Session.Operation

/-!
The history of a store: what is there after any operations, told from the operations alone.

* `ids_run`: the sessions are those that were promoted and not deleted later, latest first
  (`survivors`).
* `selected_run`: what was selected stays so until it is deleted (`deletes`), and it is always there
  (`holds_selected_after`).
* `find?_eq_getLast?`: the session found for a key is the last of those.
* `Precise`: an operation on a conversation tells whether it is there, and changes it alone.
* `told_by_history` puts these together for every history that begins with a new store, where each
  promotion is given an identifier that is not in use (`Fresh`).
-/

namespace Counsel.Store

/-- A promotion is given an identifier that is not in use. -/
def Fresh (store : Store) : Operation → Prop
  | .promote stamp => stamp.id ∉ store.ids
  | _ => True

instance (store : Store) (op : Operation) : Decidable (store.Fresh op) := by
  cases op <;> unfold Fresh <;> infer_instance

namespace Operation

/-- The session that an operation makes. -/
def made : Operation → Option SessionId
  | .promote stamp => some stamp.id
  | _ => none

/-- Whether an operation deletes what a selection names. -/
def deletes : Operation → Selection → Bool
  | .delete id, place => place = .saved id
  | _, _ => false

end Operation

/-- Whether operations delete what a selection names. -/
def deletes (ops : List Operation) (place : Selection) : Bool := ops.any (·.deletes place)

/-- The sessions that operations make and do not delete later, in the order they are made. -/
def survivors : List Operation → List SessionId
  | [] => []
  | op :: later =>
      (op.made.filter fun id => !deletes later (.saved id)).toList ++ survivors later

variable {store : Store} {id : SessionId} {op : Operation} {ops : List Operation}

theorem deletes_cons (op : Operation) (later : List Operation) (place : Selection) :
    deletes (op :: later) place = (op.deletes place || deletes later place) := List.any_cons

@[simp] theorem deletes_current (ops : List Operation) : deletes ops .current = false := by
  rw [deletes, List.any_eq_false]
  intro op _
  cases op <;> simp [Operation.deletes]

/-! ### Which sessions there are -/

/-- An operation may make a session and delete another; it keeps the order of the rest. -/
theorem ids_after (store : Store) (op : Operation) :
    (store.after op).ids =
      op.made.toList ++ store.ids.filter fun id => !op.deletes (.saved id) := by
  cases op with
  | append target message =>
      have ids : (store.append target message).ids = store.ids := by
        cases target with
        | current => rfl
        | saved id =>
            refine map_id_updateFirst ?_ store.saved
            intro s
            rfl
      simpa [after, perform, Operation.made, Operation.deletes] using ids
  | promote stamp =>
      simp [after, perform, promote, ids, sessionOfDraft, Operation.made, Operation.deletes]
  | resetDraft key messages =>
      simp [after, perform, resetDraft, ids, Operation.made, Operation.deletes]
  | select selection => simp [after, perform, select, ids, Operation.made, Operation.deletes]
  | delete id =>
      simp [after, perform, delete, ids, Operation.made, Operation.deletes, List.filter_map,
        Function.comp_def]
  | rename id title =>
      simpa [after, perform, Operation.made, Operation.deletes] using store.ids_rename id title

/-- The sessions after some operations: those that they leave of their own, latest first, and then
those that were there before and are not deleted. -/
theorem ids_run (store : Store) (ops : List Operation) :
    (ops.foldl after store).ids =
      (survivors ops).reverse ++ store.ids.filter fun id => !deletes ops (.saved id) := by
  induction ops generalizing store with
  | nil => simp [survivors, deletes]
  | cons op later ih =>
      have made : op.made.toList.filter (fun id => !deletes later (.saved id)) =
          (op.made.filter fun id => !deletes later (.saved id)).toList.reverse := by
        cases op.made with
        | none => rfl
        | some id => cases gone : deletes later (.saved id) <;> simp [Option.filter, gone]
      rw [List.foldl_cons, ih, ids_after, survivors, List.reverse_append, List.filter_append,
        List.filter_filter, made, List.append_assoc]
      simp only [deletes_cons, Bool.not_or, Bool.and_comm]

/-- No two sessions share an identifier, as long as none is given out that is in use. -/
theorem nodup_after (nodup : store.ids.Nodup) (fresh : store.Fresh op) :
    (store.after op).ids.Nodup := by
  rw [ids_after]
  cases op with
  | promote stamp => simpa [Operation.made, Operation.deletes] using ⟨fresh, nodup⟩
  | _ => exact nodup.filter _

/-! ### What is selected -/

/-- What was selected stays so until it is deleted or something else is selected. -/
theorem selected_after (store : Store) (unselected : ∀ selection, op ≠ .select selection) :
    (store.after op).selected =
      if op.deletes store.selected then .current else store.selected := by
  cases op with
  | append target message => cases target <;> rfl
  | select selection => exact absurd rfl (unselected selection)
  | delete id => simp [after, perform, delete, Operation.deletes]
  | _ => rfl

/-- What is selected is always there. -/
theorem holds_selected_after (held : store.holds store.selected = true) (op : Operation) :
    (store.after op).holds (store.after op).selected = true := by
  by_cases selects : ∃ selection, op = .select selection
  · obtain ⟨selection, rfl⟩ := selects
    show store.holds (if store.holds selection then selection else .current) = true
    split
    · assumption
    · rfl
  · rw [selected_after store (not_exists.mp selects)]
    by_cases deleted : op.deletes store.selected = true
    · rw [if_pos deleted]
      rfl
    · rw [if_neg deleted]
      cases viewed : store.selected with
      | current => rfl
      | saved id =>
          rw [viewed] at held deleted
          rw [holds_saved_iff, ids_after]
          refine List.mem_append_right _ (List.mem_filter.mpr ⟨holds_saved_iff.mp held, ?_⟩)
          simpa using deleted

/-- Without another selection, what was selected stays so until it is deleted. -/
theorem selected_run (store : Store) (unselected : ∀ selection, Operation.select selection ∉ ops) :
    (ops.foldl after store).selected =
      if deletes ops store.selected then .current else store.selected := by
  induction ops generalizing store with
  | nil => rfl
  | cons op later ih =>
      have here : ∀ selection, op ≠ .select selection := by
        rintro selection rfl
        exact unselected selection List.mem_cons_self
      rw [List.foldl_cons, ih _ fun selection member => unselected selection (.tail _ member),
        selected_after store here, deletes_cons]
      cases deleted : op.deletes store.selected <;> simp

/-! ### What is found -/

/-- Where no two sessions share an identifier, their identifiers tell them. -/
theorem filterMap_get?_ids (nodup : store.ids.Nodup) :
    store.ids.filterMap store.get? = store.saved := by
  rw [ids, List.filterMap_map]
  exact (List.filterMap_congr fun s member => get?_of_mem nodup member).trans List.filterMap_some

/-- The session found for a key is the last that was made for it. -/
theorem find?_eq_getLast? (nodup : store.ids.Nodup) (key : SessionKey) :
    store.find? key =
      ((store.ids.reverse.filterMap store.get?).filter (·.isFor key)).getLast? := by
  rw [List.filterMap_reverse, filterMap_get?_ids nodup, List.filter_reverse, List.getLast?_reverse,
    List.head?_filter]
  rfl

/-! ### What an operation on a conversation does -/

/-- What an operation on the session with an identifier does that puts `instead` in its place and
`view` on view: it tells whether the session is there, and does nothing if it is not. -/
inductive Concerns (store : Store) (id : SessionId) (instead : SavedSession → List SavedSession)
    (view : Selection) : Store × Answer → Prop
  | absent (gone : id ∉ store.ids) : Concerns store id instead view (store, .found false)
  | present {newer older : List SavedSession} {s : SavedSession}
      (whole : store.saved = newer ++ s :: older) (this : s.id = id)
      (others : ∀ other ∈ newer ++ older, other.id ≠ id) :
      Concerns store id instead view
        ({ store with saved := newer ++ instead s ++ older, selected := view }, .found true)

theorem updateFirst_split {change : SavedSession → SavedSession} {newer older : List SavedSession}
    {s : SavedSession} (this : s.id = id) (others : ∀ other ∈ newer, other.id ≠ id) :
    updateFirst id change (newer ++ s :: older) = newer ++ [change s] ++ older := by
  induction newer with
  | nil => simp [updateFirst, this]
  | cons first newer ih =>
      obtain ⟨differs, others⟩ := List.forall_mem_cons.mp others
      simp [updateFirst, differs, ih others]

/-- A session is there once, or not at all. -/
theorem absent_or_split (nodup : store.ids.Nodup) (id : SessionId) :
    (id ∉ store.ids ∧ store.get? id = none) ∨
      ∃ newer s older, store.saved = newer ++ s :: older ∧ s.id = id ∧
        (∀ other ∈ newer ++ older, other.id ≠ id) ∧ store.get? id = some s := by
  cases found : store.get? id with
  | none =>
      refine Or.inl ⟨fun member => ?_, rfl⟩
      have held := holds_saved_iff.mpr member
      simp [holds, found] at held
  | some s =>
      obtain ⟨newer, older, whole⟩ := List.append_of_mem (List.mem_of_find?_eq_some found)
      have this : s.id = id := by simpa using List.find?_some found
      rw [ids, whole, List.map_append, List.map_cons, List.nodup_middle, List.nodup_cons,
        ← List.map_append, this] at nodup
      refine Or.inr ⟨newer, s, older, whole, this, fun other member same => nodup.1 ?_, rfl⟩
      exact List.mem_map.mpr ⟨other, member, same⟩

/-- Changing the first session with an identifier concerns that session. -/
theorem updateFirst_concerns (nodup : store.ids.Nodup) (id : SessionId)
    (change : SavedSession → SavedSession) :
    store.Concerns id (fun s => [change s]) store.selected
      ({ store with saved := updateFirst id change store.saved },
        .found (store.get? id).isSome) := by
  rcases absent_or_split nodup id with
    ⟨gone, absent⟩ | ⟨newer, s, older, whole, this, others, found⟩
  · rw [updateFirst_of_absent absent, absent]
    exact .absent gone
  · have before : ∀ other ∈ newer, other.id ≠ id :=
      fun other member => others other (List.mem_append_left _ member)
    rw [whole, updateFirst_split this before, found]
    exact .present whole this others

theorem delete_concerns (nodup : store.ids.Nodup) (held : store.holds store.selected = true)
    (id : SessionId) :
    store.Concerns id (fun _ => [])
      (if store.selected = .saved id then .current else store.selected)
      (store.perform (.delete id)) := by
  rcases absent_or_split nodup id with ⟨gone, absent⟩ | ⟨newer, s, older, whole, this, others, -⟩
  · have other : store.selected ≠ .saved id := by
      intro viewed
      rw [viewed] at held
      exact gone (holds_saved_iff.mp held)
    have saved : store.saved.filter (·.id ≠ id) = store.saved := (delete_of_absent absent).1
    have same : store.delete id = store := by rw [delete, saved, if_neg other]
    have result : store.perform (.delete id) = (store, .found false) := by
      simp [perform, same]
    rw [result, if_neg other]
    exact .absent gone
  · have saved : store.saved.filter (·.id ≠ id) = newer ++ [] ++ older := by
      have kept : (newer ++ older).filter (·.id ≠ id) = newer ++ older :=
        List.filter_eq_self.mpr fun other member => by simpa using others other member
      rw [whole, List.filter_append, List.filter_cons_of_neg (by simpa using this),
        ← List.filter_append, kept, List.append_nil]
    have fewer : (newer ++ [] ++ older).length ≠ store.saved.length := by
      simp [whole]
    have result : store.perform (.delete id) =
        ({ store with
            saved := newer ++ [] ++ older
            selected := if store.selected = .saved id then .current else store.selected },
          .found true) := by
      simp only [perform, delete, saved, decide_eq_true fewer]
    rw [result]
    exact .present whole this others

/-! ### The history of a store -/

/-- Every operation on a conversation tells whether it is there, and changes that one alone: the
draft, which always is, or a saved session. A deletion turns the view of the session into that of
the draft. -/
structure Precise (store : Store) : Prop where
  append_draft : ∀ message, store.perform (.append .current message) =
    ({ store with draft := { store.draft with messages := store.draft.messages ++ [message] } },
      .found true)
  append_saved : ∀ id message,
    store.Concerns id (fun s => [{ s with messages := s.messages ++ [message] }]) store.selected
      (store.perform (.append (.saved id) message))
  rename : ∀ id title,
    store.Concerns id (fun s => [{ s with title := Title.ofWish title }]) store.selected
      (store.perform (.rename id title))
  delete : ∀ id,
    store.Concerns id (fun _ => [])
      (if store.selected = .saved id then .current else store.selected)
      (store.perform (.delete id))

/-- The store that operations make of a new one. -/
def run (key : SessionKey) (ops : List Operation) : Store := ops.foldl after (.new key)

theorem ids_run_new (key : SessionKey) (ops : List Operation) :
    (run key ops).ids = (survivors ops).reverse := by
  rw [run, ids_run]
  exact List.append_nil _

theorem nodup_run {key : SessionKey} (fresh : Run.Along after Fresh (.new key) ops) :
    (run key ops).ids.Nodup :=
  Run.keeps (Q := fun store => store.ids.Nodup) (fun _ _ => nodup_after) List.nodup_nil fresh

theorem holds_selected_run (key : SessionKey) (ops : List Operation) :
    (run key ops).holds (run key ops).selected = true := by
  have kept : ∀ store : Store, store.holds store.selected = true →
      (ops.foldl after store).holds (ops.foldl after store).selected = true := by
    induction ops with
    | nil => exact fun _ held => held
    | cons op later ih => exact fun store held => ih _ (holds_selected_after held op)
  exact kept _ rfl

theorem selection_of_held (held : store.holds store.selected = true) :
    store.selection = store.selected := if_pos held

/-- After a selection, what it came to stays on view until it is deleted. -/
theorem selection_since {key : SessionKey} {before since : List Operation}
    {selection resolved : Selection} (unselected : ∀ other, Operation.select other ∉ since)
    (answer : ((run key before).perform (.select selection)).2 = .viewed resolved) :
    (run key (before ++ .select selection :: since)).selection =
      if deletes since resolved then .current else resolved := by
  have resolves : ((run key before).after (.select selection)).selected = resolved := by
    rw [← Answer.viewed.inj answer]
    exact (selection_of_held (holds_selected_after (holds_selected_run key before) _)).symm
  rw [selection_of_held (holds_selected_run key _), ← resolves, ← selected_run _ unselected, run,
    List.foldl_append]
  rfl

/-- **What a store holds is told by its history.** After any operations on a new store, where no
identifier is given out that is in use: no two sessions share an identifier; the sessions are those
promoted and not deleted since, latest first; what is selected is there, and it is what the last
selection came to, or the draft if that was deleted since; the session found for a key is the last
of those promoted for it and not deleted; and every operation on a conversation tells whether it is
there, and changes that one alone. -/
theorem told_by_history (key : SessionKey) (ops : List Operation)
    (fresh : Run.Along after Fresh (.new key) ops) :
    let store := run key ops
    store.ids.Nodup ∧ store.ids = (survivors ops).reverse ∧
      store.holds store.selected = true ∧ store.selection = store.selected ∧
      ((∀ selection, .select selection ∉ ops) → store.selection = .current) ∧
      (∀ before selection since resolved, ops = before ++ .select selection :: since →
        (∀ other, .select other ∉ since) →
        ((run key before).perform (.select selection)).2 = .viewed resolved →
        store.selection = if deletes since resolved then .current else resolved) ∧
      (∀ key, store.find? key =
        (((survivors ops).filterMap store.get?).filter (·.isFor key)).getLast?) ∧
      store.Precise := by
  intro store
  have nodup : store.ids.Nodup := nodup_run fresh
  have ids : store.ids = (survivors ops).reverse := ids_run_new key ops
  have held : store.holds store.selected = true := holds_selected_run key ops
  refine ⟨nodup, ids, held, selection_of_held held, ?_, ?_, ?_, ?_⟩
  · intro unselected
    have nothing : store.selected = if deletes ops .current then .current else .current :=
      selected_run _ unselected
    rw [selection_of_held held, nothing, ite_self]
  · rintro before selection since resolved rfl unselected answer
    exact selection_since unselected answer
  · intro key
    rw [find?_eq_getLast? nodup, ids, List.reverse_reverse]
  · exact {
      append_draft := fun _ => rfl
      append_saved := fun id _ => updateFirst_concerns nodup id _
      rename := fun id _ => updateFirst_concerns nodup id _
      delete := delete_concerns nodup held }

/-- Three conversations on two axes are saved, the second is deleted and the first is on view. -/
theorem told_by_history_of_three :
    let work : SessionKey := ⟨.luckVsSkill, some "work"⟩
    let home : SessionKey := ⟨.luckVsSkill, some "home"⟩
    let stamp (number : BitVec 128) : Stamp := ⟨⟨number⟩, ⟨0, 0⟩⟩
    let before : List Operation :=
      [.append .current (.user "Was it luck?"), .promote (stamp 7),
        .resetDraft home [.user "And here?"], .promote (stamp 8),
        .resetDraft work [.user "Once more"], .promote (stamp 9)]
    let since : List Operation :=
      [.append (.saved ⟨7⟩) (.assistant "Some."), .rename ⟨8⟩ " ", .delete ⟨8⟩, .delete ⟨8⟩]
    let ops := before ++ .select (.saved ⟨7⟩) :: since
    let store := run work ops
    Run.Along after Fresh (.new work) ops ∧ store.ids = [⟨9⟩, ⟨7⟩] ∧
      store.selection = .saved ⟨7⟩ ∧ (store.find? work).map (·.id) = some ⟨9⟩ ∧
      store.find? home = none := by
  intro work home stamp before since ops store
  have fresh : Run.Along after Fresh (.new work) ops := by decide
  obtain ⟨-, ids, -, -, -, viewed, found, -⟩ := told_by_history work ops fresh
  refine ⟨fresh, ids.trans (by decide), ?_, ?_, ?_⟩
  · rw [viewed before (.saved ⟨7⟩) since (.saved ⟨7⟩) rfl (by simp [since]) (by decide)]
    decide
  · rw [found work]
    decide
  · rw [found home]
    decide

end Counsel.Store
