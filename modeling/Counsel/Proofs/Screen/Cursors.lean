import Counsel.Proofs.Dialogue.Keys
import Counsel.Proofs.Screen.Highlight

/-!
The cursors of the chat screen, and what they stand on.

Everything that happens to a screen is a `Happening`: a key, with what its wish came to, an event of
the dialogue, an entry of the log or a tick of the clock. Whatever is looked at then may be any
snapshot, with longer or shorter lists. `Chat.Inside` says that every cursor is within its list;
another look at the dialogue restores it (`Inside.refresh`), a key keeps it (`Inside.press`), and so
does a run of any happenings (`Inside.run`).

The highlighted row of a list is the one under the cursor as long as that is inside
(`highlights_of_getElem?`), and what a key asks (`Chat.Asks`) is asked of what that row is for.

* `cursors_on_rows`: in every run the cursors are inside, and keys are for what is highlighted.
-/

namespace Counsel.Screen

open Counsel.Dialogue

/-! ### What happens to a screen -/

/-- What happens to a screen. With a key comes the answer to what it asks for, and with whatever
makes the screen look at the dialogue again comes what it sees. -/
inductive Happening where
  | key (key : Key) (answer : Answer) (seen : Snapshot)
  | told (event : Event) (seen : Snapshot)
  | logged (entry : Log.Entry)
  | ticked (ticks : Nat)

namespace Chat

/-- The screen after something happened; none if it was left. -/
def after? (chat : Chat) : Happening → Option Chat
  | .key key answer seen =>
      match chat.press key with
      | .leave => none
      | .stay next => some next
      | .ask next wish => some (next.settle wish answer seen)
  | .told _ seen => some (chat.refresh seen)
  | .logged entry => some (chat.addEntry entry)
  | .ticked ticks => some (chat.spin ticks)

/-- The screen after happenings one after another, up to where it is left. -/
def run (chat : Chat) : List Happening → Chat
  | [] => chat
  | happening :: rest =>
      match chat.after? happening with
      | some next => next.run rest
      | none => chat

/-! ### Cursors -/

/-- Every cursor is within its list. The first row of the axes is for none, and the cursor of an
empty list of sessions stands at its start. -/
structure Inside (chat : Chat) : Prop where
  tool : chat.toolCursor < Tool.all.length
  axis : chat.axisCursor ≤ chat.snapshot.axes.length
  saved : chat.savedCursor < max 1 chat.snapshot.saved.length

end Chat

/-- Something holds of the screen that a reaction leaves, if it is not left. -/
def Reaction.Leaves (P : Chat → Prop) : Reaction → Prop
  | .leave => True
  | .stay chat => P chat
  | .ask chat _ => P chat

namespace Chat

variable {chat : Chat}

theorem inside_ofSnapshot (s : Snapshot) : (ofSnapshot s).Inside where
  tool := by
    show (Tool.all.findIdx? (· = s.tool)).getD 0 < Tool.all.length
    cases place : Tool.all.findIdx? (· = s.tool) with
    | none => decide
    | some i => exact (List.findIdx?_eq_some_iff_getElem.mp place).1
  axis := Nat.zero_le _
  saved := Nat.lt_of_lt_of_le Nat.one_pos (Nat.le_max_left _ _)

namespace Inside

/-- Another look restores what a shorter list has broken. -/
theorem refresh (inside : chat.toolCursor < Tool.all.length) (s : Snapshot) :
    (chat.refresh s).Inside where
  tool := inside
  axis := Nat.min_le_right _ _
  saved := by
    show min chat.savedCursor (s.saved.length - 1) < max 1 s.saved.length
    omega

theorem settle (inside : chat.toolCursor < Tool.all.length) (wish : Wish) (answer : Answer)
    (s : Snapshot) : (chat.settle wish answer s).Inside := by
  refine refresh ?_ s
  unfold hear
  split <;> exact inside

variable (inside : chat.Inside)
include inside

theorem spin (ticks : Nat) : (chat.spin ticks).Inside := by
  unfold Chat.spin
  split
  · exact ⟨inside.tool, inside.axis, inside.saved⟩
  · exact inside

theorem navigate (dest : Navigation) : (chat.navigate dest).Leaves Inside :=
  ⟨inside.tool, inside.axis, inside.saved⟩

theorem pressInput (key : Key) : (chat.pressInput key).Leaves Inside := by
  unfold Chat.pressInput
  split
  · split <;> exact inside
  · exact ⟨inside.tool, inside.axis, inside.saved⟩
  · exact ⟨inside.tool, inside.axis, inside.saved⟩
  · exact inside

theorem pressTools (key : Key) : (chat.pressTools key).Leaves Inside := by
  unfold Chat.pressTools
  split
  · exact ⟨Nat.lt_of_le_of_lt (Nat.sub_le _ _) inside.tool, inside.axis, inside.saved⟩
  · exact ⟨Nat.lt_of_le_of_lt (Nat.min_le_right _ _) (by decide), inside.axis, inside.saved⟩
  · split
    · exact inside.navigate _
    · exact inside
  · exact inside

theorem pressAxes (key : Key) : (chat.pressAxes key).Leaves Inside := by
  unfold Chat.pressAxes
  split
  · exact ⟨inside.tool, Nat.le_trans (Nat.sub_le _ _) inside.axis, inside.saved⟩
  · exact ⟨inside.tool, Nat.min_le_right _ _, inside.saved⟩
  · exact inside.navigate _
  · exact inside

theorem askMarked {ask : SessionId → Chat × Wish} (each : ∀ id, (ask id).1.Inside) :
    (chat.askMarked ask).Leaves Inside := by
  unfold Chat.askMarked
  split
  · exact each _
  · exact inside

theorem deleteMarked : chat.deleteMarked.Leaves Inside :=
  inside.askMarked fun _ => ⟨inside.tool, inside.axis, inside.saved⟩

theorem pressSaved (key : Key) : (chat.pressSaved key).Leaves Inside := by
  unfold Chat.pressSaved
  split
  · exact ⟨inside.tool, inside.axis, Nat.lt_of_le_of_lt (Nat.sub_le _ _) inside.saved⟩
  · refine ⟨inside.tool, inside.axis, ?_⟩
    show min (chat.savedCursor + 1) (chat.snapshot.saved.length - 1) <
      max 1 chat.snapshot.saved.length
    omega
  · exact inside.askMarked fun _ => inside
  · exact inside
  · exact inside.deleteMarked
  · exact inside.deleteMarked
  · exact inside.askMarked fun _ => ⟨inside.tool, inside.axis, inside.saved⟩
  · exact inside

/-- No key takes a cursor out of its list. -/
theorem press (key : Key) : (chat.press key).Leaves Inside := by
  unfold Chat.press
  split
  · trivial
  · trivial
  · exact ⟨inside.tool, inside.axis, inside.saved⟩
  · exact inside
  · split
    · exact inside.pressInput _
    · exact inside.pressTools _
    · exact inside.pressAxes _
    · exact inside.pressSaved _

theorem after? {happening : Happening} {next : Chat} (goesOn : chat.after? happening = some next) :
    next.Inside := by
  cases happening with
  | key key answer seen =>
      have kept := inside.press key
      unfold Chat.after? at goesOn
      cases reaction : chat.press key with
      | leave => simp [reaction] at goesOn
      | stay chat' =>
          rw [reaction] at kept
          simp only [reaction, Option.some.injEq] at goesOn
          exact goesOn ▸ kept
      | ask chat' wish =>
          rw [reaction] at kept
          simp only [reaction, Option.some.injEq] at goesOn
          exact goesOn ▸ settle kept.tool wish answer seen
  | told event seen =>
      cases goesOn
      exact refresh inside.tool seen
  | logged entry =>
      cases goesOn
      exact ⟨inside.tool, inside.axis, inside.saved⟩
  | ticked ticks =>
      cases goesOn
      exact inside.spin ticks

/-- Whatever happens, the cursors stay inside. -/
theorem run (happenings : List Happening) : (chat.run happenings).Inside := by
  induction happenings generalizing chat with
  | nil => exact inside
  | cons happening rest ih =>
      unfold Chat.run
      split
      · exact ih (inside.after? ‹_›)
      · exact inside

end Inside
end Chat

/-! ### What keys are for -/

/-- The actor after it was told what a wish tells it. -/
def Wish.carryOut (wish : Wish) (stamp : Stamp) (a : Actor) : Actor :=
  wish.commands.foldl (fun a command => (a.handle command stamp).actor) a

/-- A key asks for something, which changes a dialogue in this way, whatever its state is when it
hears of it. -/
def Chat.Asks (chat : Chat) (key : Key) (wish : Wish)
    (changes : Controller → Controller → Prop) : Prop :=
  (∃ next, chat.press key = .ask next wish) ∧
    ∀ (a : Actor) (stamp : Stamp), changes a.controller (wish.carryOut stamp a).controller

/-- A session comes on view, or the draft if none has its identifier. -/
structure Shows (id : SessionId) (before after : Store) : Prop where
  draft : after.draft = before.draft
  saved : after.saved = before.saved
  view : after.selection = if id ∈ before.ids then .saved id else .current

/-- A session is gone. If it was on view, the draft is. -/
structure Loses (id : SessionId) (before after : Store) : Prop where
  draft : after.draft = before.draft
  saved : after.saved = before.saved.filter (·.id ≠ id)
  view : after.selection = if before.selection = .saved id then .current else before.selection

/-- A session has another title, and that is all. -/
structure Retitles (id : SessionId) (title : String) (before after : Store) : Prop where
  draft : after.draft = before.draft
  ids : after.ids = before.ids
  session : after.get? id = (before.get? id).map fun s => { s with title }
  others : ∀ other, other ≠ id → after.get? other = before.get? other
  view : after.selection = before.selection

section Effects

variable {id : SessionId} {before after : Store}

theorem shows_of_select (selected : after = before.select (.saved id)) : Shows id before after := by
  subst selected
  refine ⟨rfl, rfl, ?_⟩
  rw [Store.selection_select]
  exact if_congr Store.holds_saved_iff rfl rfl

theorem loses_of_delete (deleted : after = before.delete id) : Loses id before after := by
  subst deleted
  exact ⟨rfl, rfl, before.selection_delete id⟩

theorem retitles_of_rename {wish : String} (renamed : after = before.rename id wish) :
    Retitles id (Title.ofWish wish) before after := by
  subst renamed
  refine ⟨rfl, before.ids_rename id wish, ?_, ?_, before.selection_rename id wish⟩
  · rw [Store.get?_rename, if_pos rfl]
  · intro other differs
    rw [Store.get?_rename, if_neg differs]

end Effects

/-- The keys for a saved session are for the one with an identifier. -/
structure Chat.Serves (chat : Chat) (id : SessionId) : Prop where
  view : chat.Asks .enter (.select (.saved id)) fun c c' => Shows id c.store c'.store
  remove : ∀ key, key = .delete ∨ (∃ ctrl, key = .char 'd' ctrl) →
    chat.Asks key (.delete id) fun c c' => Loses id c.store c'.store
  retitle : ∀ ctrl, chat.Asks (.char 'r' ctrl) (.rename id chat.input) fun c c' =>
    Retitles id (if Text.trim chat.input = "" then "Untitled dialogue" else Text.trim chat.input)
      c.store c'.store

namespace Chat

variable {chat : Chat}

theorem serves_of_marked {id : SessionId} (focus : chat.focus = .saved)
    (marked : chat.markedSaved = some id) : chat.Serves id where
  view := by
    refine ⟨⟨chat, ?_⟩, fun a stamp => ?_⟩
    · simp only [press, focus, pressSaved, askMarked, marked]
    · exact shows_of_select (Controller.ensureOpener_store _)
  remove := by
    intro key deletes
    refine ⟨⟨{ chat with status := "Dialogue deleted" }, ?_⟩, fun a stamp => ?_⟩
    · rcases deletes with rfl | ⟨ctrl, rfl⟩
      · simp only [press, focus, pressSaved, deleteMarked, askMarked, marked]
      · simp [press, focus, pressSaved, deleteMarked, askMarked, marked]
    · exact loses_of_delete (Controller.ensureOpener_store _)
  retitle := by
    intro ctrl
    refine ⟨⟨{ chat with input := "" }, ?_⟩, fun a stamp => retitles_of_rename rfl⟩
    simp [press, focus, pressSaved, askMarked, marked]

/-- Enter in the list of axes is for the axis that is marked. -/
theorem asks_of_marked {axis : String} (focus : chat.focus = .axes)
    (marked : chat.markedAxis = some axis) :
    let n : Navigation := ⟨chat.snapshot.tool,
      if chat.snapshot.tool = .smartGoal ∨ Text.trim axis = "" then none
      else some (Text.trim axis)⟩
    chat.Asks .enter (.navigate n) fun _ c' => c'.navigation = n := by
  intro n
  have made : Navigation.of chat.snapshot.tool (some axis) = n := by
    rw [Navigation.of_eq]
    by_cases goal : chat.snapshot.tool = .smartGoal
    · simp [n, goal]
    · by_cases blank : Text.trim axis = ""
      · simp [n, goal, blank]
      · simp [n, goal, blank]
  refine ⟨⟨{ chat with status := "?" ++ n.query }, ?_⟩, fun a stamp => ?_⟩
  · simp only [press, focus, pressAxes, marked, made, navigate]
  · have normal : n.normalise = n := made ▸ Navigation.of_normal _ _
    exact (a.controller.navigation_after (.navigate n stamp)).trans normal

/-- **The cursors stand on what is shown.** However a screen was opened and whatever happened to it,
with whatever snapshots: every cursor is within its list. In the list of axes the highlighted row is
then that of the choice under the cursor, and past the first row Enter takes the dialogue to the
axis of that row by its key. Normalising takes blanks from around the key, and all of it from a goal
tool. In a list of saved sessions that is not empty the highlighted row is that of the session under
the cursor, and Enter, the keys for deletion and the key for a title are for the session with its
identifier, whatever sessions the dialogue has by then. -/
theorem cursors_on_rows (s : Snapshot) (happenings : List Happening) :
    let chat := (ofSnapshot s).run happenings
    (chat.toolCursor < 11 ∧ chat.axisCursor ≤ chat.snapshot.axes.length ∧
      chat.savedCursor < max 1 chat.snapshot.saved.length) ∧
    (chat.focus = .axes → chat.axisCursor ≠ 0 →
      ∃ axis, chat.snapshot.axes[chat.axisCursor - 1]? = some axis ∧
        Highlights (axesPane chat) "Axis" (.ofFore .yellow) (axisChoices chat.snapshot)
          (choiceLine chat.snapshot) (some axis) ∧
        let n : Navigation := ⟨chat.snapshot.tool,
          if chat.snapshot.tool = .smartGoal ∨ Text.trim axis.key = "" then none
          else some (Text.trim axis.key)⟩
        chat.Asks .enter (.navigate n) fun _ c' => c'.navigation = n) ∧
    (chat.focus = .saved → chat.snapshot.saved ≠ [] →
      ∃ session, chat.snapshot.saved[chat.savedCursor]? = some session ∧
        Highlights (savedPane chat) "Saved (Enter/c/d/r)" (.ofFore .yellow) chat.snapshot.saved
          (sessionLine chat.snapshot) session ∧
        chat.Serves session.id) := by
  intro chat
  have inside : chat.Inside := (inside_ofSnapshot s).run happenings
  refine ⟨⟨inside.tool, inside.axis, inside.saved⟩, fun focus moved => ?_, fun focus filled => ?_⟩
  · obtain ⟨i, cursor⟩ := Nat.exists_eq_succ_of_ne_zero moved
    have within := inside.axis
    rw [cursor] at within
    have there : chat.snapshot.axes[i]? = some chat.snapshot.axes[i] :=
      List.getElem?_eq_getElem within
    have choice : (axisChoices chat.snapshot)[chat.axisCursor]? =
        some (some chat.snapshot.axes[i]) := by
      simp [axisChoices, cursor, there]
    have marked : chat.markedAxis = some chat.snapshot.axes[i].key := by
      simp only [markedAxis, cursor, there, Option.map_some]
    refine ⟨chat.snapshot.axes[i], by rw [cursor]; exact there, ?_, ?_⟩
    · rw [funext chat.axesPane_eq]
      exact highlights_of_getElem? choice (choiceLine_unreversed _) focus "Axis"
    · exact asks_of_marked focus marked
  · have within := inside.saved
    rw [Nat.max_eq_right (List.length_pos_iff.mpr filled)] at within
    have there := List.getElem?_eq_getElem within
    have marked : chat.markedSaved = some chat.snapshot.saved[chat.savedCursor].id := by
      rw [markedSaved, there, Option.map_some]
    refine ⟨chat.snapshot.saved[chat.savedCursor], there, ?_, serves_of_marked focus marked⟩
    rw [funext fun height => chat.savedPane_eq height filled]
    exact highlights_of_getElem? there (sessionLine_unreversed _) focus "Saved (Enter/c/d/r)"

/-- The second of two sessions is marked, and only one is left when the dialogue is looked at again:
the keys are for that one. Had another come before it by the time of the key, they would still be.
Enter on an axis whose key has blanks around it leads to the axis without them. -/
theorem cursors_on_rows_of_shorter :
    let first : Summary := ⟨⟨1⟩, "What now?", .debrief, none, ⟨0, 0⟩, 2⟩
    let second : Summary := ⟨⟨2⟩, "And then?", .debrief, none, ⟨0, 0⟩, 4⟩
    let s : Snapshot := (Controller.new (.of .debrief none)).snapshot
    let happenings : List Happening := [.key .tab .done s, .key .tab .done s, .key .tab .done s,
      .key .down .done { s with saved := [second, first] },
      .told .changed { s with saved := [first] }]
    let chat := (ofSnapshot { s with saved := [second, first] }).run happenings
    let keys : List Happening := [.key .tab .done s, .key .tab .done s, .key .down .done s]
    let onAxis := (ofSnapshot { s with axes := [⟨" work ", "Work"⟩] }).run keys
    (chat.focus = .saved ∧ chat.snapshot.saved ≠ [] ∧ chat.savedCursor = 0 ∧
      Highlights (savedPane chat) "Saved (Enter/c/d/r)" (.ofFore .yellow) chat.snapshot.saved
        (sessionLine chat.snapshot) first ∧
      chat.Serves ⟨1⟩) ∧
    (onAxis.focus = .axes ∧ onAxis.axisCursor ≠ 0 ∧
      ∃ n : Navigation, n = ⟨.debrief, some "work"⟩ ∧
        onAxis.Asks .enter (.navigate n) fun _ c' => c'.navigation = n) := by
  intro first second s happenings chat keys onAxis
  have focus : chat.focus = .saved := by decide
  have filled : chat.snapshot.saved ≠ [] := by decide
  have cursor : chat.savedCursor = 0 := by decide
  obtain ⟨-, -, marked⟩ := cursors_on_rows { s with saved := [second, first] } happenings
  obtain ⟨session, there, lit, serves⟩ := marked focus filled
  have only : chat.snapshot.saved[chat.savedCursor]? = some first := by decide
  cases there.symm.trans only
  have focus' : onAxis.focus = .axes := by decide
  have moved : onAxis.axisCursor ≠ 0 := by decide
  obtain ⟨-, row, -⟩ := cursors_on_rows { s with axes := [⟨" work ", "Work"⟩] } keys
  obtain ⟨axis, there', -, asks⟩ := row focus' moved
  have only' : onAxis.snapshot.axes[onAxis.axisCursor - 1]? = some ⟨" work ", "Work"⟩ := by decide
  cases there'.symm.trans only'
  exact ⟨⟨focus, filled, cursor, lit, serves⟩, focus', moved, _, by decide, asks⟩

end Chat
end Counsel.Screen
