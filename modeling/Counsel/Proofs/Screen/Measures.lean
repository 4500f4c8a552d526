import Counsel.Proofs.Dialogue.Running
import Counsel.Proofs.Screen.Transcript

/-!
The measures of the screen as words.

Terminals count columns and rows in words of 16 bits, so what the layout computes from lengths of
any size may not be what it stands for. `WordsExact` says of a screen that every conversion and
every sum in its layout is the number it stands for, and `words_exact_iff` when that is so: as long
as the catalogue, the conversation and the typed line are not too long for words. Nothing bounds
them: the service may send any catalogue (`long_catalogue_inexact`).
-/

namespace Counsel.Screen

open Counsel.Dialogue

/-! ### Words -/

theorem toNat_toUInt16 (n : Nat) : n.toUInt16.toNat = n % 65536 := UInt16.toNat_ofNat'

theorem toNat_toUInt16_eq_iff {n : Nat} : n.toUInt16.toNat = n ↔ n < 65536 := by
  rw [toNat_toUInt16]
  omega

theorem toNat_axesHeight_eq_iff {axes : Nat} :
    (axesHeight axes).toNat = axes + 3 ↔ axes < 65533 := by
  have sum : (axesHeight axes).toNat = (axes % 65536 + 3) % 65536 := by
    rw [axesHeight, UInt16.toNat_add, toNat_toUInt16]
    rfl
  omega

theorem toNat_scrollOffset_eq_iff {rows visible : Nat} :
    (scrollOffset rows visible).toNat = rows - visible ↔ rows < visible + 65536 := by
  rw [toNat_scrollOffset]
  omega

namespace Area

variable {area : Area} {typed : Nat}

theorem toNat_next_eq_iff {word : UInt16} :
    (word + 1).toNat = word.toNat + 1 ↔ word.toNat < 65535 := by
  have sum : (word + 1).toNat = (word.toNat + 1) % 65536 := UInt16.toNat_add word 1
  have := word.toNat_lt
  omega

theorem toNat_typedColumn_eq_iff :
    (area.typedColumn typed).toNat = area.left.toNat + 1 + typed ↔
      area.left.toNat + 1 + typed < 65536 := by
  have next : (area.left + 1).toNat = (area.left.toNat + 1) % 65536 := UInt16.toNat_add area.left 1
  have sum : (area.typedColumn typed).toNat =
      ((area.left.toNat + 1) % 65536 + typed % 65536) % 65536 := by
    rw [typedColumn, UInt16.toNat_add, next, toNat_toUInt16]
  omega

end Area

/-! ### Measures -/

theorem length_conversationLines (s : Snapshot) (turns : Nat) :
    (conversationLines s turns).length = 3 * s.messages.length + s.isBusy.toNat := by
  have each : (s.messages.flatMap messageLines).length = 3 * s.messages.length := by
    rw [List.length_flatMap]
    simp [messageLines, Nat.mul_comm]
  rw [conversationLines, List.length_append, each]
  cases s.isBusy <;> rfl

/-- Every conversion to a word and every sum of words in the layout of a screen is the number it
stands for, where these are the panes of the conversation and of the typed line. -/
structure WordsExact (chat : Chat) (conversation input : Area) : Prop where
  toolsCount : Tool.all.length.toUInt16.toNat = Tool.all.length
  tools : toolsHeight.toNat = Tool.all.length + 4
  axesCount : chat.snapshot.axes.length.toUInt16.toNat = chat.snapshot.axes.length
  axes : (axesHeight chat.snapshot.axes.length).toNat = chat.snapshot.axes.length + 3
  offset : (scrollOffset (conversationLines chat.snapshot chat.turns).length
      (conversation.height.toNat - 2)).toNat =
    (conversationLines chat.snapshot chat.turns).length - (conversation.height.toNat - 2)
  typedCount : chat.input.length.toUInt16.toNat = chat.input.length
  inside : (input.left + 1).toNat = input.left.toNat + 1
  column : (input.typedColumn chat.input.length).toNat = input.left.toNat + 1 + chat.input.length
  row : input.cursorRow.toNat = input.top.toNat + 1

/-- **When the words of the layout are exact.** For every screen, whatever it shows and wherever its
panes are, every conversion to a word and every sum of words is the number it stands for exactly if

* the catalogue has fewer than 65,533 axes, so that the height of its pane is a word;
* the lines of the conversation, three for a message and one while something is waited for, are
  fewer than 65,536 more than the rows of its pane;
* the column after the typed line is a word;
* the pane of the typed line does not start in the last row there can be. -/
theorem words_exact_iff (chat : Chat) (conversation input : Area) :
    WordsExact chat conversation input ↔
      chat.snapshot.axes.length < 65533 ∧
      3 * chat.snapshot.messages.length + chat.snapshot.isBusy.toNat <
        conversation.height.toNat - 2 + 65536 ∧
      input.left.toNat + 1 + chat.input.length < 65536 ∧
      input.top.toNat < 65535 := by
  rw [← length_conversationLines chat.snapshot chat.turns]
  constructor
  · rintro ⟨-, -, -, axes, offset, -, -, column, row⟩
    exact ⟨toNat_axesHeight_eq_iff.mp axes, toNat_scrollOffset_eq_iff.mp offset,
      Area.toNat_typedColumn_eq_iff.mp column, Area.toNat_next_eq_iff.mp row⟩
  · rintro ⟨few, short, narrow, low⟩
    exact {
      toolsCount := by decide
      tools := by decide
      axesCount := toNat_toUInt16_eq_iff.mpr (by omega)
      axes := toNat_axesHeight_eq_iff.mpr few
      offset := toNat_scrollOffset_eq_iff.mpr short
      typedCount := toNat_toUInt16_eq_iff.mpr (by omega)
      inside := Area.toNat_next_eq_iff.mpr (by omega)
      column := Area.toNat_typedColumn_eq_iff.mpr narrow
      row := Area.toNat_next_eq_iff.mpr low }

/-- The screen of a workspace whose opener brought this catalogue. -/
def chatWith (catalogue : List Axis) : Chat :=
  .ofSnapshot <| ((Running.start ⟨.debrief, none⟩).run
    [.finished ⟨1⟩ (.ok ⟨"Hello.", some catalogue⟩)]).actor.controller.snapshot

/-- An opener brings a catalogue of 65,536 axes, and the pane for them gets three rows, as if there
were none. -/
theorem long_catalogue_inexact :
    let chat := chatWith (List.replicate 65536 ⟨"", ""⟩)
    chat.snapshot.axes.length = 65536 ∧ (axesHeight chat.snapshot.axes.length).toNat = 3 ∧
      ¬ WordsExact chat ⟨30, 1, 70, 29⟩ (inputArea 100 40) := by
  intro chat
  have many : chat.snapshot.axes.length = 65536 := List.length_replicate
  refine ⟨many, by rw [many]; decide, fun exact => ?_⟩
  have few := exact.axes
  rw [many] at few
  revert few
  decide

end Counsel.Screen
