import Counsel.Screen.Row

/-!
Wrapping: a line that is too long for a width goes on in further rows, broken at blanks, or within
a word that is longer than a row. Blanks are kept, but for those that end a row.

The glyphs of a line are taken one at a time. They gather in a blank and a word after the row in
progress, which takes them in where the word ends.
-/

namespace Counsel.Screen

/-- What has been read of a line and is not yet in a finished row: the row in progress, the blanks
after it, the word after them, and whether the glyph before was part of a word. -/
structure Wrapping where
  row : List Glyph
  blanks : List Glyph
  word : List Glyph
  inWord : Bool
  deriving DecidableEq, Repr

namespace Wrapping

def start : Wrapping := ⟨[], [], [], false⟩

/-- The row takes in the blanks and the word. -/
def takeIn (w : Wrapping) : Wrapping :=
  { w with row := w.row ++ w.blanks ++ w.word, blanks := [], word := [] }

/-- A glyph joins the blanks or the word. -/
def push (w : Wrapping) (g : Glyph) : Wrapping :=
  if g.isBlank then { w with blanks := w.blanks ++ [g], inWord := false }
  else { w with word := w.word ++ [g], inWord := true }

/-- The glyphs left when those at the front that fit into a room are gone. -/
def dropFitting : Nat → List Glyph → List Glyph
  | _, [] => []
  | room, g :: rest => if room < g.width then g :: rest else dropFitting (room - g.width) rest

/-- Whether the row takes in its blanks and its word before a glyph: where the word ends, or where
an empty row would become too wide. -/
def endsBefore (w : Wrapping) (width : Nat) (g : Glyph) : Bool :=
  (w.inWord && g.isBlank) ||
    (w.row.isEmpty && width < glyphsWidth w.word + glyphsWidth w.blanks + g.width)

/-- Whether the row is finished before a glyph: it is full, or it would be with what waits for
it. -/
def isFull (w : Wrapping) (width : Nat) (g : Glyph) : Bool :=
  width ≤ glyphsWidth w.row ||
    (0 < g.width &&
      width ≤ glyphsWidth w.row + glyphsWidth w.blanks + glyphsWidth w.word)

/-- Takes a glyph; gives the row that this finishes. The blanks that still fit into a finished row
are dropped, and so is the glyph itself if it is the blank after them. A glyph wider than any row
is left out. -/
def step (width : Nat) (w : Wrapping) (g : Glyph) : Option (List Glyph) × Wrapping :=
  if width < g.width then (none, w)
  else
    let w := if w.endsBefore width g then w.takeIn else w
    if w.isFull width g then
      let left := dropFitting (width - glyphsWidth w.row) w.blanks
      let next := { w with row := [], blanks := left }
      (some w.row, if g.isBlank && left.isEmpty then next else next.push g)
    else (none, w.push g)

/-- The rows of what is left at the end of a line. -/
def finish (w : Wrapping) : List (List Glyph) :=
  let last := w.row ++ w.blanks ++ w.word
  (if w.row.isEmpty && w.word.isEmpty && !w.blanks.isEmpty then [[]] else []) ++
    if last.isEmpty then [] else [last]

/-- The rows of the rest of a line. -/
def rows (width : Nat) (w : Wrapping) : List Glyph → List (List Glyph)
  | [] => w.finish
  | g :: rest =>
      let (row, w) := w.step width g
      row.toList ++ rows width w rest

end Wrapping

/-- The rows of a line in a width; there is always one. -/
def wrap (width : Nat) (line : List Glyph) : List (List Glyph) :=
  match Wrapping.start.rows width line with
  | [] => [[]]
  | rows => rows

/-- The rows of lines in a width. -/
def wrapAll (width : Nat) (lines : List (List Glyph)) : List (List Glyph) :=
  lines.flatMap (wrap width)

theorem wrap_ne_nil (width : Nat) (line : List Glyph) : wrap width line ≠ [] := by
  unfold wrap
  split <;> simp_all

end Counsel.Screen
