import Counsel.Screen.View

/-!
What is highlighted in the lists of the sidebar.

The row of the marked item is reversed, and no other is. A list with more items than rows starts at
the first item for which the marked one still shows, so it shows in whatever room the list is drawn
(`listRows_marked`).

* `Highlights`: the one row of a list that is reversed is that of an item.
* `highlights_of_getElem?`: of the list that keys are for, it is that of the item under the cursor,
  as long as the cursor is inside.
-/

namespace Counsel.Screen

open Counsel.Dialogue

/-! ### The marked row -/

section Lists

variable {α : Type} {items : List α} {item : α} {place : Nat}

/-- The row of an item in the sidebar. -/
def itemRow (line : α → Line) (item : α) : Row := Row.ofLine (sidebarWidth - 2) .none (line item)

/-- A row with all its cells reversed. -/
def reversedRow (row : Row) : Row :=
  row.map fun cell => { cell with style := { cell.style with reversed := true } }

/-- A list of the sidebar, in whatever room it is drawn, has one row that is reversed. It is that of
an item; above and below it are the rows of its neighbours, with no cell reversed. -/
def Highlights (pane : Nat → List Row) (title : String) (border : Style) (items : List α)
    (line : α → Line) (item : α) : Prop :=
  ∀ height, 2 < height → ∃ above below, above ++ item :: below <:+: items ∧
    pane height = framed sidebarWidth height title border
      (above.map (itemRow line) ++ reversedRow (itemRow line item) :: below.map (itemRow line)) ∧
    ∀ other ∈ above ++ below, ∀ cell ∈ itemRow line other, cell.style.reversed = false

theorem highlight_marking (row : Row) : row.highlight marking = reversedRow row := rfl

theorem mem_of_mem_fitting {width room : Nat} {gs : List Glyph} {g : Glyph}
    (shown : g ∈ Row.fitting width room gs) : g ∈ gs := by
  induction gs generalizing room with
  | nil => cases shown
  | cons first rest ih =>
      unfold Row.fitting at shown
      split at shown
      · exact .tail _ (ih shown)
      · split at shown
        · cases shown
        · rcases List.mem_cons.mp shown with rfl | later
          · exact .head _
          · exact .tail _ (ih later)

theorem style_of_mem_cells {g : Glyph} {cell : Cell} (part : cell ∈ g.cells) :
    cell.style = g.style := by
  unfold Glyph.cells at part
  split at part
  · cases part
  · rcases List.mem_cons.mp part with rfl | second
    · rfl
    · rw [List.eq_of_mem_replicate second]

/-- Where no part of a line is reversed, no cell of its row is: each is of a glyph of the line, or a
blank after them. -/
theorem itemRow_unreversed {line : α → Line}
    (unreversed : ∀ span ∈ line item, span.style.reversed = false) :
    ∀ cell ∈ itemRow line item, cell.style.reversed = false := by
  intro cell member
  rcases List.mem_append.mp member with shown | blank
  · obtain ⟨g, fits, part⟩ := List.mem_flatMap.mp shown
    obtain ⟨span, inside, drawn⟩ := List.mem_flatMap.mp (mem_of_mem_fitting fits)
    obtain ⟨chars, -, rfl⟩ := List.mem_map.mp drawn
    rw [style_of_mem_cells part, Style.onto, unreversed span inside]
    rfl
  · rw [List.eq_of_mem_replicate blank]
    rfl

theorem mapIdx_of_lt {β : Type} {f : Nat → α → β} {g : α → β}
    (same : ∀ i < items.length, ∀ item, f i item = g item) : items.mapIdx f = items.map g := by
  refine List.ext_getElem (by simp) fun i _ inside => ?_
  simp only [List.getElem_mapIdx, List.getElem_map]
  exact same i (by simpa using inside) _

/-- The rows of all items of a list, whether there is room for them or not. -/
theorem mapIdx_marked (line : α → Line) (before : List α) (item : α) (after : List α) :
    ((before ++ item :: after).map line).mapIdx (fun i item =>
        let row := Row.ofLine (sidebarWidth - 2) .none item
        if some before.length = some i then row.highlight marking else row) =
      before.map (itemRow line) ++ (itemRow line item).highlight marking ::
        after.map (itemRow line) := by
  rw [List.map_append, List.map_cons, List.mapIdx_append, List.mapIdx_cons]
  simp only [List.length_map, Nat.zero_add, if_true]
  congr 1
  · rw [mapIdx_of_lt (g := Row.ofLine (sidebarWidth - 2) .none), List.map_map]
    · rfl
    · intro i inside _
      rw [List.length_map] at inside
      rw [if_neg]
      simp only [Option.some.injEq]
      omega
  · congr 1
    rw [mapIdx_of_lt (g := Row.ofLine (sidebarWidth - 2) .none), List.map_map]
    · rfl
    · intro i _ _
      rw [if_neg]
      simp only [Option.some.injEq]
      omega

/-- In whatever room a list is drawn, the row of the marked item shows and is highlighted. -/
theorem listRows_marked (line : α → Line) (before : List α) (item : α) (after : List α)
    {height : Nat} (room : 0 < height) :
    ∃ above below, above ++ item :: below <:+: before ++ item :: after ∧
      listRows (sidebarWidth - 2) height ((before ++ item :: after).map line)
          (some before.length) =
        above.map (itemRow line) ++ (itemRow line item).highlight marking ::
          below.map (itemRow line) := by
  generalize hides : before.length + 1 - height = hidden
  have fits : hidden ≤ before.length := by omega
  have last : min before.length (((before ++ item :: after).map line).length - 1) =
      before.length := by
    simp only [List.length_map, List.length_append, List.length_cons]
    omega
  have above : ((before.drop hidden).map (itemRow line)).length = before.length - hidden := by
    rw [List.length_map, List.length_drop]
  -- What is left of the room below the marked row.
  obtain ⟨left, rest⟩ : ∃ left, height - (before.length - hidden) = left + 1 :=
    Nat.exists_eq_add_one.mpr (by omega)
  refine ⟨before.drop hidden, after.take left, ⟨before.take hidden, after.drop left, ?_⟩, ?_⟩
  · rw [List.append_assoc, List.append_assoc, List.cons_append, List.take_append_drop,
      ← List.append_assoc, List.take_append_drop]
  · simp only [listRows, Option.map_some, last, mapIdx_marked, firstShown, hides]
    rw [List.drop_append_of_le_length (by rwa [List.length_map]), ← List.map_drop,
      List.take_append, above, rest, List.take_succ_cons, List.map_take,
      List.take_of_length_le (Nat.le_trans (Nat.le_of_eq above) (by omega))]

/-- The pane that keys are for highlights the item under its cursor, if one is there. -/
theorem highlights_of_getElem? {line : α → Line} (there : items[place]? = some item)
    (unreversed : ∀ item, ∀ span ∈ line item, span.style.reversed = false) {chat : Chat}
    {pane : Pane} (focus : chat.focus = pane) (title : String) :
    Highlights (fun height => listPane chat pane title height (items.map line) (some place)) title
      (.ofFore .yellow) items line item := by
  intro height tall
  obtain ⟨inside, rfl⟩ := List.getElem?_eq_some_iff.mp there
  have drawn := listRows_marked line (items.take place) items[place] (items.drop (place + 1))
    (show 0 < height - 2 by omega)
  rw [List.getElem_cons_drop, List.take_append_drop, List.length_take,
    Nat.min_eq_left (Nat.le_of_lt inside)] at drawn
  obtain ⟨above, below, near, rows⟩ := drawn
  refine ⟨above, below, near, ?_, fun other _ => itemRow_unreversed (unreversed other)⟩
  simp only [listPane, rows, focus, if_true, highlight_marking]

end Lists

/-! ### The lists of axes and of sessions -/

/-- The choices in the list of axes: none, and every axis of the catalogue. -/
def axisChoices (s : Snapshot) : List (Option Axis) := none :: s.axes.map some

/-- The line of a choice in the list of axes. -/
def choiceLine (s : Snapshot) : Option Axis → Line
  | none => [⟨"(no axis)", axisStyle s.axis.isNone .gray⟩]
  | some axis => [⟨"● " ++ axis.label,
      axisStyle (s.axis = some axis.key) (.exact (Axis.colourOf axis.key))⟩]

/-- The line of a session in the list of saved ones. -/
def sessionLine (s : Snapshot) (session : Summary) : Line :=
  .plain ((if s.selection = .saved session.id then "▶ " else "  ") ++ session.title)

theorem choiceLine_unreversed (s : Snapshot) (choice : Option Axis) :
    ∀ span ∈ choiceLine s choice, span.style.reversed = false := by
  intro span member
  cases choice with
  | none =>
      cases List.mem_singleton.mp member
      rfl
  | some axis =>
      cases List.mem_singleton.mp member
      rfl

theorem sessionLine_unreversed (s : Snapshot) (session : Summary) :
    ∀ span ∈ sessionLine s session, span.style.reversed = false := by
  intro span member
  cases List.mem_singleton.mp member
  rfl

namespace Chat

theorem axesPane_eq (chat : Chat) (height : Nat) :
    axesPane chat height = listPane chat .axes "Axis" height
      ((axisChoices chat.snapshot).map (choiceLine chat.snapshot)) (some chat.axisCursor) := by
  simp only [axesPane, axisChoices, List.map_cons, List.map_map]
  rfl

theorem savedPane_eq (chat : Chat) (height : Nat) (filled : chat.snapshot.saved ≠ []) :
    savedPane chat height = listPane chat .saved "Saved (Enter/c/d/r)" height
      (chat.snapshot.saved.map (sessionLine chat.snapshot)) (some chat.savedCursor) := by
  simp only [savedPane, List.isEmpty_iff, filled, if_false]
  rfl

end Chat

end Counsel.Screen
