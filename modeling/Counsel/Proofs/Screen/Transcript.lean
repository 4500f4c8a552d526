import Counsel.Screen.View

/-!
What shows of a conversation that is longer than its pane.

The pane is scrolled by the number of lines that would be too many if each took one row, but a line
takes as many rows as it is wrapped into. A row is known by its place among all rows of the
transcript, since two rows may look the same; `shownLines_eq` says that the rows that show are those
at `shownPlaces`. Every line takes a row at least (`length_le_wrapAll`), so a transcript with a
wrapped line has more rows than the offset allows for.

* `end_shown_iff`: the last row shows exactly if all rows fit the pane, or no line is wrapped and
  the number of lines is not too great for the offset.
-/

namespace Counsel.Screen

open Counsel.Dialogue

/-! ### Rows and lines -/

variable {width : Nat} {lines : List (List Glyph)}

theorem wrapAll_cons (line : List Glyph) :
    wrapAll width (line :: lines) = wrap width line ++ wrapAll width lines :=
  List.flatMap_cons

theorem length_wrap_pos (width : Nat) (line : List Glyph) : 0 < (wrap width line).length :=
  List.length_pos_iff.mpr (wrap_ne_nil width line)

/-- Every line takes a row at least. -/
theorem length_le_wrapAll (width : Nat) (lines : List (List Glyph)) :
    lines.length ≤ (wrapAll width lines).length := by
  induction lines with
  | nil => exact Nat.zero_le _
  | cons line lines ih =>
      have := length_wrap_pos width line
      rw [wrapAll_cons, List.length_append, List.length_cons]
      omega

/-- There are as many rows as lines exactly if no line is wrapped. -/
theorem length_wrapAll_eq_iff :
    (wrapAll width lines).length = lines.length ↔ ∀ line ∈ lines, (wrap width line).length = 1 := by
  induction lines with
  | nil => simp [wrapAll]
  | cons line lines ih =>
      have here := length_wrap_pos width line
      have more := length_le_wrapAll width lines
      rw [List.forall_mem_cons, ← ih, wrapAll_cons, List.length_append, List.length_cons]
      omega

/-! ### Places -/

/-- The places of the rows that show, of so many rows that so many lines are wrapped into, in a pane
of so many rows. -/
def shownPlaces (height lines rows : Nat) : List Nat :=
  ((List.range rows).drop (scrollOffset lines height).toNat).take height

theorem mem_shownPlaces {height lines rows place : Nat} :
    place ∈ shownPlaces height lines rows ↔ place < rows ∧
      (scrollOffset lines height).toNat ≤ place ∧
      place < (scrollOffset lines height).toNat + height := by
  rw [shownPlaces, List.mem_take_iff_getElem]
  simp only [List.getElem_drop, List.getElem_range, List.length_drop, List.length_range]
  constructor
  · rintro ⟨i, inside, rfl⟩
    omega
  · rintro ⟨inside, after, before⟩
    exact ⟨place - (scrollOffset lines height).toNat, by omega, by omega⟩

theorem map_range_getD {α : Type} (rows : List α) (default : α) :
    (List.range rows.length).map (fun place => rows.getD place default) = rows := by
  refine List.ext_getElem (by simp) fun i _ inside => ?_
  simp [List.getD, inside]

/-- The rows that show are those at the places that show. -/
theorem shownLines_eq (width height : Nat) (lines : List Line) :
    shownLines width height lines =
      (shownPlaces height lines.length
        (wrapAll width (lines.map (Line.glyphs .none))).length).map fun place =>
          (wrapAll width (lines.map (Line.glyphs .none))).getD place [] := by
  rw [shownPlaces, List.map_take, List.map_drop, map_range_getD]
  rfl

/-! ### The end of a transcript -/

/-- The offset of a number of lines is a word, so it is cut off where it would be too great. -/
theorem toNat_scrollOffset (rows visible : Nat) :
    (scrollOffset rows visible).toNat = (rows - visible) % 65536 :=
  UInt16.toNat_ofNat'

/-- The last of so many rows shows exactly if all of them fit, or there is one for each line and the
offset is a word. -/
theorem last_mem_shownPlaces_iff {height lines rows : Nat} (tall : 0 < height) (some : 0 < rows)
    (enough : lines ≤ rows) :
    rows - 1 ∈ shownPlaces height lines rows ↔
      rows ≤ height ∨ rows = lines ∧ lines < height + 65536 := by
  rw [mem_shownPlaces, toNat_scrollOffset]
  omega

/-- A conversation has lines where something was said or is waited for. -/
theorem conversationLines_ne_nil {s : Snapshot} (turns : Nat)
    (alive : s.messages ≠ [] ∨ s.isBusy = true) : conversationLines s turns ≠ [] := by
  unfold conversationLines
  rcases alive with spoken | busy
  · obtain ⟨m, rest, said⟩ := List.exists_cons_of_ne_nil spoken
    simp [said, messageLines]
  · simp [busy]

/-- **When the end of a conversation shows.** The rows of a conversation that show are those at the
places that show, and its last row is one of them exactly if all of its rows fit the pane, or no
line of it is wrapped and there are fewer than `height + 65536` lines. -/
theorem end_shown_iff (s : Snapshot) (turns width : Nat) {height : Nat} (tall : 0 < height)
    (alive : s.messages ≠ [] ∨ s.isBusy = true) :
    let lines := conversationLines s turns
    let rows := wrapAll width (lines.map (Line.glyphs .none))
    shownLines width height lines =
        (shownPlaces height lines.length rows.length).map (fun place => rows.getD place []) ∧
      (rows.length - 1 ∈ shownPlaces height lines.length rows.length ↔
        rows.length ≤ height ∨
          (∀ line ∈ lines, (wrap width (line.glyphs .none)).length = 1) ∧
            lines.length < height + 65536) := by
  intro lines rows
  have enough : lines.length ≤ rows.length := by
    simpa using length_le_wrapAll width (lines.map (Line.glyphs .none))
  have some : 0 < lines.length := List.length_pos_iff.mpr (conversationLines_ne_nil turns alive)
  have single : rows.length = lines.length ↔
      ∀ line ∈ lines, (wrap width (line.glyphs .none)).length = 1 := by
    simpa using @length_wrapAll_eq_iff width (lines.map (Line.glyphs .none))
  rw [← single]
  exact ⟨shownLines_eq width height lines, last_mem_shownPlaces_iff tall (by omega) enough⟩

/-- What a workspace shows that has just been answered. -/
def answered (text : String) : Snapshot :=
  ((Controller.new ⟨.debrief, none⟩).ensureOpener.1.complete ⟨1⟩ (.ok (.ofText text))).1.snapshot

/-- In a pane of three rows, three lines that are not wrapped show. -/
theorem end_shown_of_short_reply :
    let s := answered "Hello."
    let lines := conversationLines s 0
    let rows := wrapAll 20 (lines.map (Line.glyphs .none))
    (0 < 3 ∧ (s.messages ≠ [] ∨ s.isBusy = true)) ∧
      rows.length - 1 ∈ shownPlaces 3 lines.length rows.length := by
  intro s lines rows
  have alive : s.messages ≠ [] ∨ s.isBusy = true := .inl (by decide)
  obtain ⟨-, shows⟩ := end_shown_iff s 0 20 (show 0 < 3 by decide) alive
  exact ⟨⟨by decide, alive⟩, shows.mpr (.inl (by decide +kernel))⟩

/-- A reply that is wrapped into four rows does not show to its end, since the offset for three
lines is zero in a pane of four rows. -/
theorem wrapped_reply_end_hidden :
    let lines := conversationLines (answered "Which of the two would you regret less?") 0
    let rows := wrapAll 12 (lines.map (Line.glyphs .none))
    let texts (rows : List (List Glyph)) := rows.map fun row => (Row.ofGlyphs row).text
    texts rows = ["assistant:", "Which of the", "two would", "you regret", "less?", ""] ∧
      texts (shownLines 12 4 lines) = ["assistant:", "Which of the", "two would", "you regret"] ∧
      rows.length - 1 ∉ shownPlaces 4 lines.length rows.length := by
  decide +kernel

end Counsel.Screen
