import Counsel.Proofs.Dialogue.Awaited

/-!
The shape of conversations: perhaps the line that a draft starts with after a save, perhaps an
opener, then the messages of the user, each with at most one reply.

`Shape` is the grammar, and three lemmas say which messages may come at the end: a message of the
user always (`Shape.ask`), an opener where there is no conversation yet (`Shape.greet`), a reply
right after a message of the user (`Shape.answer`). That a reply comes there is what `Awaits` is
for: as long as a turn is waited for, its conversation ends in the message that was asked
(`Reachable.awaits`).

* `conversations_shaped`: in every reachable dialogue, the draft and all saved sessions have the
  shape, and no session is saved without a conversation.
-/

namespace Counsel

/-! ### The grammar -/

/-- Messages of the user that are not blank, each with at most one reply. -/
inductive Turns : List Message → Prop where
  | nil : Turns []
  | asked {text : String} {rest : List Message} (words : ¬ Text.Blank text) (turns : Turns rest) :
      Turns (.user text :: rest)
  | answered {text reply : String} {rest : List Message} (words : ¬ Text.Blank text)
      (turns : Turns rest) : Turns (.user text :: .assistant reply :: rest)

/-- A conversation: perhaps the line a draft starts with, perhaps an opener, then turns. -/
def Shape (messages : List Message) : Prop :=
  ∃ ready opener turns, messages = ready ++ opener ++ turns ∧
    (ready = [] ∨ ready = [.system Dialogue.readyMessage]) ∧
    (opener = [] ∨ ∃ text, opener = [.assistant text]) ∧ Turns turns

theorem Turns.ask {messages : List Message} {text : String} (turns : Turns messages)
    (words : ¬ Text.Blank text) : Turns (messages ++ [.user text]) := by
  induction turns with
  | nil => exact .asked words .nil
  | asked before _ ih => exact .asked before ih
  | answered before _ ih => exact .answered before ih

/-- A reply may come after a message of the user. -/
theorem Turns.answer {messages : List Message} {text : String} (turns : Turns messages)
    (last : messages.getLast? = some (.user text)) (reply : String) :
    Turns (messages ++ [.assistant reply]) := by
  induction turns with
  | nil => cases last
  | @asked _ rest before turns ih =>
      cases rest with
      | nil => exact .answered before .nil
      | cons next rest =>
          rw [List.getLast?_cons_cons] at last
          exact .asked before (ih last)
  | @answered _ _ rest before turns ih =>
      cases rest with
      | nil => cases last
      | cons next rest =>
          rw [List.getLast?_cons_cons, List.getLast?_cons_cons] at last
          exact .answered before (ih last)

namespace Shape

variable {messages : List Message}

theorem nil : Shape [] :=
  ⟨[], [], [], rfl, Or.inl rfl, Or.inl rfl, .nil⟩

theorem ready : Shape [.system Dialogue.readyMessage] :=
  ⟨[.system Dialogue.readyMessage], [], [], rfl, Or.inr rfl, Or.inl rfl, .nil⟩

theorem ask {text : String} (shape : Shape messages) (words : ¬ Text.Blank text) :
    Shape (messages ++ [.user text]) := by
  obtain ⟨ready, opener, turns, rfl, first, second, rest⟩ := shape
  exact ⟨ready, opener, turns ++ [.user text], List.append_assoc _ _ _, first, second,
    rest.ask words⟩

/-- An opener may come where nobody said anything. -/
theorem greet (shape : Shape messages) (empty : hasContent messages = false) (text : String) :
    Shape (messages ++ [.assistant text]) := by
  obtain ⟨ready, opener, turns, rfl, first, second, rest⟩ := shape
  simp only [hasContent, List.any_append, Bool.or_eq_false_iff] at empty
  obtain ⟨⟨-, unopened⟩, unasked⟩ := empty
  have noOpener : opener = [] := by
    rcases second with none | ⟨greeting, rfl⟩
    · exact none
    · cases unopened
  have noTurns : turns = [] := by
    cases rest with
    | nil => rfl
    | asked _ _ => cases unasked
    | answered _ _ => cases unasked
  subst noOpener noTurns
  exact ⟨ready, [.assistant text], [], by simp, first, Or.inr ⟨text, rfl⟩, .nil⟩

/-- A reply may come right after a message of the user. -/
theorem answer {text : String} (shape : Shape messages)
    (last : messages.getLast? = some (.user text)) (reply : String) :
    Shape (messages ++ [.assistant reply]) := by
  obtain ⟨ready, opener, turns, rfl, first, second, rest⟩ := shape
  have asked : turns.getLast? = some (.user text) := by
    cases turns with
    | cons turn turns => rwa [List.getLast?_append_cons] at last
    | nil =>
        rcases first with rfl | rfl <;> rcases second with rfl | ⟨greeting, rfl⟩ <;> cases last
  exact ⟨ready, opener, turns ++ [.assistant reply], List.append_assoc _ _ _, first, second,
    rest.answer asked reply⟩

end Shape

/-! ### The conversations of a dialogue -/

namespace Dialogue.Trail

variable {t : Trail} {op : Operation}

/-- An operation adds messages only where the shape allows them. -/
theorem Reachable.shape_next (reached : t.Reachable) (shaped : t.controller.store.Every Shape)
    (op : Operation) : (t.next op).controller.store.Every Shape := by
  simp only [Trail.next]
  cases t.controller.change op with
  | keep _ _ draft saved _ => exact shaped.congr draft saved
  | delete store _ =>
      rw [store]
      exact shaped.delete _
  | rename store _ =>
      rw [store]
      exact shaped.rename _ _
  | ask words _ store _ =>
      rw [store]
      exact shaped.append fun _ _ shape => shape.ask words
  | greet _ empty store _ =>
      rw [store]
      refine shaped.append fun messages read shape => shape.greet ?_ _
      have same : t.controller.store.draft.messages = messages := Option.some.inj read
      rw [← same]
      exact empty
  | answer waited meant store _ =>
      rw [store]
      obtain ⟨place, prior, text, w⟩ := reached.awaits _ waited
      have aim := w.meant _ waited rfl
      rw [meant] at aim
      refine shaped.append fun messages read shape => ?_
      rw [aim.messages_eq read] at shape ⊢
      exact shape.answer List.getLast?_concat _
  | drop _ _ store _ =>
      rw [store]
      exact shaped
  | leave _ _ _ draft saved _ =>
      refine ⟨by rw [draft]; exact Shape.nil, ?_⟩
      rw [saved]
      exact List.forall_mem_cons.mpr ⟨shaped.1, shaped.2⟩
  | abandon _ _ draft saved _ =>
      refine ⟨by rw [draft]; exact Shape.nil, ?_⟩
      rw [saved]
      exact shaped.2
  | save _ draft saved _ =>
      refine ⟨by rw [draft]; exact Shape.ready, ?_⟩
      rw [saved]
      exact List.forall_mem_cons.mpr ⟨shaped.1, shaped.2⟩

theorem Reachable.shape (reached : t.Reachable) : t.controller.store.Every Shape := by
  induction reached with
  | opened tool axis => exact ⟨Shape.nil, by simp [start, Controller.new, Store.new]⟩
  | step before _ ih => exact before.shape_next ih _

/-- Nothing is saved without a conversation. -/
theorem Reachable.saved_content (reached : t.Reachable) :
    ∀ s ∈ t.controller.store.saved, hasContent s.messages = true := by
  induction reached with
  | opened tool axis => simp [start, Controller.new, Store.new]
  | @step t op _ _ ih =>
      intro s member
      obtain ⟨kept, saved, each⟩ := t.controller.saved_after op
      rw [Trail.next, saved] at member
      rcases List.mem_append.mp member with created | old
      · obtain ⟨content, stamp, rfl⟩ :=
          Controller.draft_of_created (Option.mem_toList.mp created)
        exact content
      · obtain ⟨before, there, kept⟩ := Kept.exists_old each old
        exact hasContent_of_isPrefix kept.messages_isPrefix
          (ih before (List.mem_filter.mp there).1)

/-- **Every conversation has the shape.** In a reachable dialogue the draft and all saved sessions
are as the grammar says, and every saved session has a word of the user or of the assistant. -/
theorem conversations_shaped (reached : t.Reachable) :
    Shape t.controller.store.draft.messages ∧
      ∀ s ∈ t.controller.store.saved, Shape s.messages ∧ hasContent s.messages = true :=
  ⟨reached.shape.1, fun s member => ⟨reached.shape.2 s member, reached.saved_content s member⟩⟩

/-- A draft started after a save, with a question and the reply to it. -/
theorem conversations_shaped_after_save :
    let t := (start .debrief none).run [.setInput "What now?", .submit, .save ⟨⟨1⟩, ⟨0, 0⟩⟩,
      .setInput "And then?", .submit, .complete ⟨2⟩ (.ok ⟨"Wait.", none⟩)]
    t.Reachable ∧
      t.controller.store.draft.messages =
        [.system readyMessage, .user "And then?", .assistant "Wait."] ∧
      Shape t.controller.store.draft.messages ∧
      ∀ s ∈ t.controller.store.saved, Shape s.messages ∧ hasContent s.messages = true := by
  intro t
  have reached : t.Reachable := (Reachable.opened .debrief none).run (by decide)
  have messages : t.controller.store.draft.messages =
      [.system readyMessage, .user "And then?", .assistant "Wait."] := by decide
  exact ⟨reached, messages, conversations_shaped reached⟩

end Dialogue.Trail
end Counsel
