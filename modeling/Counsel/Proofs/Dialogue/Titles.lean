import Counsel.Proofs.Dialogue.Shape
import Counsel.Proofs.Session.Title
import Mathlib.Data.List.Induction

/-!
The titles of saved sessions.

A title is made once, when the session is saved, from the messages that it has then; it changes only
when the session is renamed. What keeps it true to the session afterwards is that messages only come
at the end, so the first message of the user stays the first (`Entitled.keep`). What keeps it from
being blank is the shape of conversations: no message of the user is blank.

* `titles_presentable`: in every run no saved session has a blank title, and a session that was
  never renamed is called after its tool or shows the first message of its user.
-/

namespace Counsel

open Text (Blank)

/-- The title is the tool's label, or shows the first message of the user. -/
def SavedSession.Entitled (s : SavedSession) : Prop :=
  s.title = s.tool.label ∨
    ∃ first, s.messages.find? (·.role = .user) = some first ∧ Title.Previews first.text s.title

/-- A saved session gets such a title. -/
theorem Store.entitled_sessionOfDraft (store : Store) (stamp : Stamp) :
    (store.sessionOfDraft stamp).Entitled :=
  Title.ofMessages_cases store.draft.key.tool store.draft.messages _

/-- Tools have short labels, and a preview is short, so a title that nobody chose is. -/
theorem SavedSession.Entitled.length_le {s : SavedSession} (entitled : s.Entitled) :
    s.title.length ≤ Title.previewLength + 1 := by
  rcases entitled with label | ⟨first, -, shows⟩
  · rw [label]
    cases s.tool <;> decide
  · exact shows.length_le

/-- In the grammar of conversations only messages that are not blank come from the user. -/
theorem Turns.words {messages : List Message} (turns : Turns messages) :
    ∀ m ∈ messages, m.role = .user → ¬ Blank m.text := by
  induction turns with
  | nil => simp
  | asked words _ ih => exact List.forall_mem_cons.mpr ⟨fun _ => words, ih⟩
  | answered words _ ih =>
      refine List.forall_mem_cons.mpr ⟨fun _ => words, List.forall_mem_cons.mpr ⟨?_, ih⟩⟩
      intro assistant
      cases assistant

theorem Shape.words {messages : List Message} (shape : Shape messages) :
    ∀ m ∈ messages, m.role = .user → ¬ Blank m.text := by
  obtain ⟨ready, opener, turns, rfl, first, second, rest⟩ := shape
  intro m member user
  rcases List.mem_append.mp member with before | turn
  · rcases List.mem_append.mp before with line | greeting
    · rcases first with rfl | rfl
      · cases line
      · cases List.mem_singleton.mp line
        cases user
    · rcases second with rfl | ⟨text, rfl⟩
      · cases greeting
      · cases List.mem_singleton.mp greeting
        cases user
  · exact rest.words m turn user

namespace Dialogue

namespace Controller

/-- The session that an operation renames, if it is there. -/
def renamed (c : Controller) : Operation → Option SessionId
  | .rename id _ => if (c.store.get? id).isSome then some id else none
  | _ => none

end Controller

/-- A session that is not renamed keeps its title, and has the same first message of the user: what
comes to a conversation comes at its end. -/
theorem Kept.entitled {op : Operation} {old new : SavedSession} (kept : Kept op old new)
    (title : new.title = old.title) (entitled : old.Entitled) : new.Entitled := by
  rcases entitled with label | ⟨first, found, shows⟩
  · left
    rw [title, label, kept.tool]
  · refine Or.inr ⟨first, ?_, by rwa [title]⟩
    obtain ⟨later, more⟩ := kept.messages_isPrefix
    rw [← more, List.find?_append, found]
    rfl

namespace Trail

variable {t : Trail} {op : Operation} {ops : List Operation}

/-- The sessions that are renamed in a run. -/
def renamed : Trail → List Operation → List SessionId := collect Controller.renamed

/-- Whatever is saved, and whatever stays and is not renamed, has a title as it should. -/
theorem entitled_next {named : List SessionId}
    (entitled : ∀ s ∈ t.controller.store.saved, s.id ∉ named → s.Entitled) (op : Operation) :
    ∀ s ∈ (t.next op).controller.store.saved,
      s.id ∉ named ++ (t.controller.renamed op).toList → s.Entitled := by
  intro s member unnamed
  obtain ⟨before, now⟩ := not_or.mp (mt List.mem_append.mpr unnamed)
  obtain ⟨kept, saved, each⟩ := t.controller.saved_after op
  rw [Trail.next, saved] at member
  rcases List.mem_append.mp member with created | stayed
  · obtain ⟨-, stamp, rfl⟩ := Controller.draft_of_created (Option.mem_toList.mp created)
    exact t.controller.store.entitled_sessionOfDraft stamp
  · obtain ⟨old, there, same⟩ := Kept.exists_old each stayed
    have stood : old ∈ t.controller.store.saved := (List.mem_filter.mp there).1
    rcases same.title with title | ⟨title, rfl, -⟩
    · refine same.entitled title (entitled old stood ?_)
      rwa [← same.id]
    · -- The session is there, so the wish is one of those that count.
      refine absurd ?_ now
      have found : (t.controller.store.get? old.id).isSome = true := by
        simpa [Store.get?] using ⟨old, stood, rfl⟩
      simp [Controller.renamed, found, same.id]

theorem entitled_run (tool : Tool) (axis : Option String) (ops : List Operation) :
    ∀ s ∈ ((start tool axis).run ops).controller.store.saved,
      s.id ∉ (start tool axis).renamed ops → s.Entitled := by
  induction ops using List.reverseRecOn with
  | nil => simp [start, Controller.new, Store.new]
  | append_singleton ops op ih =>
      rw [run_concat, renamed, collect_concat]
      exact entitled_next ih op

/-- No title is blank: what a session is saved with has words, and so has every wish. -/
theorem Reachable.title_not_blank (reached : t.Reachable) :
    ∀ s ∈ t.controller.store.saved, ¬ Blank s.title := by
  induction reached with
  | opened tool axis => simp [start, Controller.new, Store.new]
  | @step t op before _ ih =>
      intro s member
      obtain ⟨kept, saved, each⟩ := t.controller.saved_after op
      rw [Trail.next, saved] at member
      rcases List.mem_append.mp member with created | stayed
      · obtain ⟨-, stamp, rfl⟩ := Controller.draft_of_created (Option.mem_toList.mp created)
        exact Title.not_blank_ofMessages before.shape.1.words
      · obtain ⟨old, there, same⟩ := Kept.exists_old each stayed
        rcases same.title with title | ⟨wish, -, title⟩
        · rw [title]
          exact ih old (List.mem_filter.mp there).1
        · rw [title]
          exact Title.not_blank_ofWish wish

/-- **Titles are presentable.** In every run no saved session has a title that is blank after
trimming. One that was never renamed is called by the label of its tool, or shows the first message
of its user: the whole text without the blanks around it if that has at most 20 characters, and
otherwise the first 20 and one ellipsis. Such a title has at most 21 characters. -/
theorem titles_presentable (tool : Tool) (axis : Option String)
    (fresh : (start tool axis).Along Fresh ops) :
    ∀ s ∈ ((start tool axis).run ops).controller.store.saved,
      Text.trim s.title ≠ "" ∧
        (s.id ∉ (start tool axis).renamed ops →
          (s.title = s.tool.label ∨
            ∃ first, s.messages.find? (·.role = .user) = some first ∧
              let text := Text.trim first.text
              (text.length ≤ 20 ∧ s.title = text ∨
                20 < text.length ∧ s.title.toList = text.toList.take 20 ++ ['…'])) ∧
          s.title.length ≤ 21) := by
  intro s member
  have reached := (Reachable.opened tool axis).run fresh
  refine ⟨mt Text.trim_eq_empty.mp (reached.title_not_blank s member), fun unnamed => ?_⟩
  have entitled := entitled_run tool axis ops s member unnamed
  exact ⟨entitled, entitled.length_le⟩

/-- The first session is renamed to nothing, and the second one shows the beginning of a message
with blanks around it. -/
theorem titles_presentable_of_second :
    let ops : List Operation := [.setInput "Stay?", .submit, .save ⟨⟨1⟩, ⟨0, 0⟩⟩,
      .setInput " Should I take the new job? ", .submit, .save ⟨⟨2⟩, ⟨0, 0⟩⟩, .rename ⟨1⟩ " "]
    (start .debrief none).Along Fresh ops ∧ (start .debrief none).renamed ops = [⟨1⟩] ∧
      ((start .debrief none).run ops).controller.store.saved.map (·.title) =
        ["Should I take the ne…", "Untitled dialogue"] ∧
      ∀ s ∈ ((start .debrief none).run ops).controller.store.saved,
        Text.trim s.title ≠ "" ∧ (s.id ≠ ⟨1⟩ → s.title.length ≤ 21) := by
  intro ops
  have fresh : (start .debrief none).Along Fresh ops := by decide
  have renamed : (start .debrief none).renamed ops = [⟨1⟩] := by decide
  refine ⟨fresh, renamed, by decide, fun s member => ?_⟩
  obtain ⟨words, presentable⟩ := titles_presentable .debrief none fresh s member
  refine ⟨words, fun other => (presentable ?_).2⟩
  rw [renamed]
  exact mt List.mem_singleton.mp other

end Trail
end Dialogue
end Counsel
