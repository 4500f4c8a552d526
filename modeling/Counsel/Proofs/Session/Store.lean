import Counsel.Session.Store
import Mathlib.Data.List.Nodup

/-!
The conversations of a store, and what its operations do to them.

A conversation is read by `Store.messages?`, from the draft or from the saved session with an
identifier. The lemmas say for each operation what it leaves of every conversation:

* `messages?_append`: the conversation that a selection names has one more message, and no other
  is touched. A selection that names nothing changes nothing.
* `messages?_delete`: the session that is deleted is gone, and all else is as it was.
* `messages?_rename`: no conversation changes.

`ids` lists the identifiers of the saved sessions, and `Every` says something of all conversations.
-/

namespace Counsel

/-- A message of the user makes a conversation. -/
theorem hasContent_append_user (prior : List Message) (text : String) :
    hasContent (prior ++ [.user text]) = true := by
  simp [hasContent, Message.user, Message.isConversational, Role.isConversational]

/-- So does one of the assistant. -/
theorem hasContent_append_assistant (prior : List Message) (text : String) :
    hasContent (prior ++ [.assistant text]) = true := by
  simp [hasContent, Message.assistant, Message.isConversational, Role.isConversational]

theorem hasContent_of_isPrefix {messages more : List Message} (begins : messages <+: more)
    (content : hasContent messages = true) : hasContent more = true := by
  obtain ⟨m, member, conversational⟩ := List.any_eq_true.mp content
  exact List.any_eq_true.mpr ⟨m, begins.subset member, conversational⟩

namespace Store

/-- The identifiers of the saved sessions, latest first. -/
def ids (store : Store) : List SessionId := store.saved.map (·.id)

/-- The tool of the conversation that a selection names. -/
def tool? (store : Store) : Selection → Option Tool
  | .current => some store.draft.key.tool
  | .saved id => (store.get? id).map (·.tool)

/-! ### Changing one session of a list -/

section UpdateFirst

variable {id other : SessionId} {change : SavedSession → SavedSession}

theorem find?_updateFirst (keeps : ∀ s, (change s).id = s.id) (sessions : List SavedSession) :
    (updateFirst id change sessions).find? (·.id = other) =
      if other = id then (sessions.find? (·.id = id)).map change
      else sessions.find? (·.id = other) := by
  induction sessions with
  | nil => simp [updateFirst]
  | cons s rest ih =>
      unfold updateFirst
      by_cases this : s.id = id
      · by_cases same : other = id
        · simp [this, same, keeps]
        · have differs : id ≠ other := fun h => same h.symm
          simp [this, same, keeps, differs]
      · rw [if_neg this, List.find?_cons, ih]
        by_cases same : other = id
        · subst same
          simp [this]
        · simp [same, List.find?_cons]

/-- A session of the changed list was there before, or is the first with the identifier,
changed. -/
theorem mem_updateFirst {sessions : List SavedSession} {s : SavedSession}
    (member : s ∈ updateFirst id change sessions) :
    s ∈ sessions ∨ ∃ old, sessions.find? (·.id = id) = some old ∧ s = change old := by
  induction sessions with
  | nil => cases member
  | cons first rest ih =>
      unfold updateFirst at member
      split at member
      · rename_i this
        rcases List.mem_cons.mp member with rfl | old
        · exact Or.inr ⟨first, by simp [this], rfl⟩
        · exact Or.inl (List.mem_cons_of_mem _ old)
      · rename_i this
        rcases List.mem_cons.mp member with rfl | later
        · exact Or.inl List.mem_cons_self
        · rcases ih later with old | changed
          · exact Or.inl (List.mem_cons_of_mem _ old)
          · exact Or.inr (by simpa [this] using changed)

/-- A change that keeps what is looked for keeps whether it is found. -/
theorem any_updateFirst {p : SavedSession → Bool} (keeps : ∀ s, p (change s) = p s)
    (sessions : List SavedSession) : (updateFirst id change sessions).any p = sessions.any p := by
  induction sessions with
  | nil => rfl
  | cons s rest ih =>
      unfold updateFirst
      split
      · rw [List.any_cons, List.any_cons, keeps]
      · rw [List.any_cons, List.any_cons, ih]

/-- A change that keeps identifiers keeps which there are. -/
theorem map_id_updateFirst (keeps : ∀ s, (change s).id = s.id) (sessions : List SavedSession) :
    (updateFirst id change sessions).map (·.id) = sessions.map (·.id) := by
  induction sessions with
  | nil => rfl
  | cons s rest ih =>
      unfold updateFirst
      split
      · rw [List.map_cons, List.map_cons, keeps]
      · rw [List.map_cons, List.map_cons, ih]

/-- Nothing changes where there is no session with the identifier. -/
theorem updateFirst_of_absent {sessions : List SavedSession}
    (absent : sessions.find? (·.id = id) = none) : updateFirst id change sessions = sessions := by
  induction sessions with
  | nil => rfl
  | cons s rest ih =>
      obtain ⟨other, others⟩ : ¬ s.id = id ∧ rest.find? (·.id = id) = none := by
        simpa using absent
      rw [updateFirst, if_neg other, ih others]

end UpdateFirst

/-! ### Reading conversations -/

variable {store : Store} {id other : SessionId} {selection place : Selection} {message : Message}

theorem mem_ids_of_get? {s : SavedSession} (found : store.get? id = some s) : id ∈ store.ids := by
  have same : s.id = id := by simpa using List.find?_some found
  exact List.mem_map.mpr ⟨s, List.mem_of_find?_eq_some found, same⟩

theorem holds_saved_iff : store.holds (.saved id) = true ↔ id ∈ store.ids := by
  simp [holds, get?, ids]

/-- Where no two sessions share an identifier, each is found by its own. -/
theorem get?_of_mem (nodup : store.ids.Nodup) {s : SavedSession} (member : s ∈ store.saved) :
    store.get? s.id = some s := by
  obtain ⟨other, found⟩ : ∃ other, store.get? s.id = some other :=
    Option.isSome_iff_exists.mp (holds_saved_iff.mpr (List.mem_map_of_mem member))
  have same : other.id = s.id := by simpa using List.find?_some found
  rw [found, List.inj_on_of_nodup_map nodup (List.mem_of_find?_eq_some found) member same]

/-- A selection names something exactly when it has messages to read. -/
theorem holds_eq_isSome_messages? (store : Store) (selection : Selection) :
    store.holds selection = (store.messages? selection).isSome := by
  cases selection with
  | current => rfl
  | saved id => simp [holds, messages?]

/-- What is on view is always there. -/
theorem holds_selection (store : Store) : store.holds store.selection = true := by
  unfold selection
  split
  · assumption
  · rfl

/-- What is on view has messages. -/
theorem exists_messages?_selection (store : Store) :
    ∃ messages, store.messages? store.selection = some messages := by
  have held := holds_selection store
  rw [holds_eq_isSome_messages?] at held
  exact Option.isSome_iff_exists.mp held

/-- What is read of what is on view is its messages. -/
theorem messages?_selection (store : Store) :
    store.messages? store.selection = some store.activeMessages := by
  obtain ⟨messages, read⟩ := store.exists_messages?_selection
  rw [activeMessages, read, Option.getD_some]

/-- The messages of a saved session that is on view are those that are read. -/
theorem activeMessages_of_mem (nodup : store.ids.Nodup) {s : SavedSession}
    (member : s ∈ store.saved) (viewed : store.selection = .saved s.id) :
    store.activeMessages = s.messages := by
  simp [activeMessages, viewed, messages?, get?_of_mem nodup member]

/-- The messages of a store hang on its draft and its saved sessions alone. -/
theorem messages?_congr {store' : Store} (draft : store'.draft = store.draft)
    (saved : store'.saved = store.saved) (selection : Selection) :
    store'.messages? selection = store.messages? selection := by
  cases selection <;> simp [messages?, get?, draft, saved]

/-! ### What the operations leave -/

/-- A session that is created hides no session with another identifier. -/
theorem messages?_of_created {store' : Store} {s : SavedSession}
    (saved : store'.saved = s :: store.saved) (differs : s.id ≠ id) :
    store'.messages? (.saved id) = store.messages? (.saved id) := by
  simp [messages?, get?, saved, differs]

theorem get?_append_saved (store : Store) (id other : SessionId) (message : Message) :
    (store.append (.saved id) message).get? other =
      if other = id then
        (store.get? id).map fun s => { s with messages := s.messages ++ [message] }
      else store.get? other := by
  refine find?_updateFirst ?_ store.saved
  intro s
  rfl

theorem get?_rename (store : Store) (id other : SessionId) (title : String) :
    (store.rename id title).get? other =
      if other = id then (store.get? id).map fun s => { s with title := Title.ofWish title }
      else store.get? other := by
  refine find?_updateFirst ?_ store.saved
  intro s
  rfl

theorem ids_rename (store : Store) (id : SessionId) (title : String) :
    (store.rename id title).ids = store.ids := by
  refine map_id_updateFirst ?_ store.saved
  intro s
  rfl

theorem get?_delete (store : Store) (id other : SessionId) :
    (store.delete id).get? other = if other = id then none else store.get? other := by
  unfold delete get?
  rw [List.find?_filter]
  split
  · rename_i same
    subst same
    simp
  · rename_i differs
    congr 1
    funext s
    by_cases this : s.id = other
    · simp [this, differs]
    · simp [this]

/-- Appending adds a message to one conversation, if it is there, and touches no other. -/
theorem messages?_append (store : Store) (place selection : Selection) (message : Message) :
    (store.append place message).messages? selection =
      if selection = place then (store.messages? place).map (· ++ [message])
      else store.messages? selection := by
  cases place with
  | current => cases selection <;> simp [append, messages?, get?]
  | saved id =>
      cases selection with
      | current => simp [append, messages?]
      | saved other =>
          simp only [messages?, get?_append_saved, Selection.saved.injEq]
          split
          · simp [Function.comp_def]
          · rfl

/-- A message that comes to a conversation that is there stands at its end, and all else is as it
was. -/
theorem messages?_append_of_read {messages : List Message}
    (read : store.messages? place = some messages) (message : Message) (selection : Selection) :
    (store.append place message).messages? selection =
      if selection = place then some (messages ++ [message]) else store.messages? selection := by
  rw [messages?_append, read, Option.map_some]

/-- An answer stands right after the message that it answers. -/
theorem messages?_append_turn {prior : List Message} {first : Message}
    (read : store.messages? place = some (prior ++ [first])) (second : Message)
    (selection : Selection) :
    (store.append place second).messages? selection =
      if selection = place then some (prior ++ [first, second])
      else store.messages? selection := by
  rw [messages?_append_of_read read, List.append_assoc, List.singleton_append]

@[simp] theorem draft_key_append (store : Store) (place : Selection) (message : Message) :
    (store.append place message).draft.key = store.draft.key := by
  cases place <;> rfl

theorem draft_isPrefix_append (store : Store) (place : Selection) (message : Message) :
    store.draft.messages <+: (store.append place message).draft.messages := by
  cases place with
  | current => exact List.prefix_append _ _
  | saved id => exact List.prefix_refl _

theorem append_of_not_held (gone : store.messages? place = none) :
    store.append place message = store := by
  cases place with
  | current => simp [messages?] at gone
  | saved id =>
      have absent : store.get? id = none := by simpa [messages?] using gone
      simp [append, updateFirst_of_absent absent]

theorem rename_of_absent (absent : store.get? id = none) (title : String) :
    store.rename id title = store := by
  simp [rename, updateFirst_of_absent absent]

theorem messages?_delete (store : Store) (id : SessionId) (selection : Selection) :
    (store.delete id).messages? selection =
      if selection = .saved id then none else store.messages? selection := by
  cases selection with
  | current => rfl
  | saved other =>
      simp only [messages?, get?_delete, Selection.saved.injEq]
      split <;> rfl

theorem messages?_rename (store : Store) (id : SessionId) (title : String)
    (selection : Selection) :
    (store.rename id title).messages? selection = store.messages? selection := by
  cases selection with
  | current => rfl
  | saved other =>
      simp only [messages?, get?_rename]
      split
      · rename_i same
        subst same
        simp [Function.comp_def]
      · rfl

/-! ### What is on view, and what is saved for a key -/

/-- What is on view hangs on what was selected and on what is there. -/
theorem selection_congr {store' : Store} (selected : store'.selected = store.selected)
    (holds : ∀ s, store'.holds s = store.holds s) : store'.selection = store.selection := by
  unfold selection
  rw [selected, holds]

/-- What is selected comes on view if it is there. -/
theorem selection_select (store : Store) (place : Selection) :
    (store.select place).selection = if store.holds place then place else .current := by
  have holds : ∀ s, (store.select place).holds s = store.holds s := by
    intro s
    cases s <;> rfl
  rw [selection, holds]
  cases held : store.holds place with
  | true => simp [select, held]
  | false => simp [select, held]

/-- A session that was on view and is deleted leaves the view to the draft. -/
theorem selection_delete (store : Store) (id : SessionId) :
    (store.delete id).selection =
      if store.selection = .saved id then .current else store.selection := by
  have holds : ∀ place, place ≠ .saved id → (store.delete id).holds place = store.holds place := by
    intro place other
    rw [holds_eq_isSome_messages?, holds_eq_isSome_messages?, messages?_delete, if_neg other]
  by_cases selected : store.selected = .saved id
  · have left : (store.delete id).selection = .current := by simp [selection, delete, selected]
    rw [left, selection, selected]
    cases store.holds (.saved id) <;> simp
  · have stays : (store.delete id).selected = store.selected := if_neg selected
    rw [selection, stays, holds _ selected, ← selection, if_neg]
    intro viewed
    unfold selection at viewed
    split at viewed
    · exact selected viewed
    · cases viewed

/-- Deleting what is not there leaves the sessions and the view as they are. -/
theorem delete_of_absent (absent : store.get? id = none) :
    (store.delete id).saved = store.saved ∧ (store.delete id).selection = store.selection := by
  refine ⟨List.filter_eq_self.mpr (by simpa [get?] using absent), ?_⟩
  rw [selection_delete, if_neg]
  intro viewed
  have held := store.holds_selection
  rw [viewed] at held
  simp [holds, absent] at held

@[simp] theorem selection_append (store : Store) (place : Selection) (message : Message) :
    (store.append place message).selection = store.selection := by
  refine selection_congr ?_ ?_
  · cases place <;> rfl
  · intro s
    simp only [holds_eq_isSome_messages?, messages?_append]
    split
    · rename_i same
      rw [same, Option.isSome_map]
    · rfl

@[simp] theorem selection_rename (store : Store) (id : SessionId) (title : String) :
    (store.rename id title).selection = store.selection := by
  refine selection_congr rfl ?_
  intro s
  rw [holds_eq_isSome_messages?, holds_eq_isSome_messages?, messages?_rename]

theorem hasSaved_eq_any (store : Store) (key : SessionKey) :
    store.hasSaved key = store.saved.any (·.isFor key) := List.isSome_find?

theorem draftIsSaved_iff :
    store.draftIsSaved = true ↔
      ∃ s ∈ store.saved, s.isFor store.draft.key = true ∧ s.messages = store.draft.messages := by
  simp [draftIsSaved]

@[simp] theorem hasSaved_append (store : Store) (place : Selection) (message : Message)
    (key : SessionKey) : (store.append place message).hasSaved key = store.hasSaved key := by
  rw [hasSaved_eq_any, hasSaved_eq_any]
  cases place with
  | current => rfl
  | saved id =>
      refine any_updateFirst ?_ store.saved
      intro s
      rfl

@[simp] theorem hasSaved_rename (store : Store) (id : SessionId) (title : String)
    (key : SessionKey) : (store.rename id title).hasSaved key = store.hasSaved key := by
  rw [hasSaved_eq_any, hasSaved_eq_any]
  refine any_updateFirst ?_ store.saved
  intro s
  rfl

/-- A deletion saves nothing. -/
theorem hasSaved_delete {key : SessionKey} (unsaved : store.hasSaved key = false)
    (id : SessionId) : (store.delete id).hasSaved key = false := by
  rw [hasSaved_eq_any, List.any_eq_false] at unsaved ⊢
  intro s member
  exact unsaved s (List.mem_filter.mp member).1

/-- The draft is saved for its own key. -/
theorem hasSaved_promote (store : Store) (stamp : Stamp) :
    (store.promote stamp).hasSaved store.draft.key = true := by
  rw [hasSaved_eq_any]
  simp [promote, sessionOfDraft, SavedSession.isFor]

/-! ### What holds of every conversation -/

/-- Something holds of the messages of the draft and of those of every saved session. -/
def Every (P : List Message → Prop) (store : Store) : Prop :=
  P store.draft.messages ∧ ∀ s ∈ store.saved, P s.messages

namespace Every

variable {P : List Message → Prop}

theorem congr {store' : Store} (every : store.Every P) (draft : store'.draft = store.draft)
    (saved : store'.saved = store.saved) : store'.Every P := by
  rwa [Every, draft, saved]

/-- What holds of every conversation holds of what is read of one. -/
theorem of_messages? (every : store.Every P) {messages : List Message}
    (read : store.messages? place = some messages) : P messages := by
  cases place with
  | current =>
      cases read
      exact every.1
  | saved id =>
      obtain ⟨s, found, rfl⟩ := Option.map_eq_some_iff.mp read
      exact every.2 s (List.mem_of_find?_eq_some found)

theorem delete (every : store.Every P) (id : SessionId) : (store.delete id).Every P :=
  ⟨every.1, fun s member => every.2 s (List.mem_filter.mp member).1⟩

theorem rename (every : store.Every P) (id : SessionId) (title : String) :
    (store.rename id title).Every P := by
  refine ⟨every.1, fun s member => ?_⟩
  rcases mem_updateFirst member with old | ⟨old, found, rfl⟩
  · exact every.2 s old
  · exact every.2 old (List.mem_of_find?_eq_some found)

/-- A message keeps what holds of every conversation if it keeps it of the one it comes to. -/
theorem append (every : store.Every P)
    (more : ∀ messages, store.messages? place = some messages → P messages →
      P (messages ++ [message])) : (store.append place message).Every P := by
  cases place with
  | current => exact ⟨more _ rfl every.1, every.2⟩
  | saved id =>
      refine ⟨every.1, fun s member => ?_⟩
      rcases mem_updateFirst member with old | ⟨old, found, rfl⟩
      · exact every.2 s old
      · have read : store.messages? (.saved id) = some old.messages := by
          simp only [messages?, get?, found, Option.map_some]
        exact more _ read (every.2 old (List.mem_of_find?_eq_some found))

end Every

end Store
end Counsel
