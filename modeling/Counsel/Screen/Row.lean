import Counsel.Screen.Style
import Counsel.Text.Width

/-!
Rows of the screen. A row is put together from glyphs, a glyph being a cluster of a text with its
style; on the row it takes as many cells as it is wide. Rows of the same height stand beside one
another, and a border goes around rows.
-/

namespace Counsel.Screen

/-- One column of a row. The second cell of a wide glyph has no characters. -/
structure Cell where
  chars : List Char
  style : Style
  deriving DecidableEq, Repr

/-- The cells of a row, leftmost first. -/
abbrev Row := List Cell

/-- A cluster of a text with its style. -/
structure Glyph where
  chars : List Char
  style : Style
  deriving DecidableEq, Repr

/-- A text in one style. -/
structure Span where
  text : String
  style : Style := .none
  deriving DecidableEq, Repr

/-- A line that is not yet laid out. -/
abbrev Line := List Span

namespace Glyph

def width (g : Glyph) : Nat := Text.clusterWidth g.chars

/-- Whether lines may break at a glyph: it is a blank other than the no-break space, or a space
without width. -/
def isBlank (g : Glyph) : Bool :=
  g.chars = ['\u200b'] || (g.chars.all Text.isBlank && g.chars ≠ ['\u00a0'])

/-- The cells of a glyph, as many as it is wide. -/
def cells (g : Glyph) : Row :=
  match g.width with
  | 0 => []
  | n + 1 => ⟨g.chars, g.style⟩ :: List.replicate n ⟨[], g.style⟩

end Glyph

/-- How many columns glyphs take. -/
def glyphsWidth (gs : List Glyph) : Nat := (gs.map Glyph.width).foldr (· + ·) 0

/-- The glyphs of a span in its style over another. Ends of lines have none. -/
def Span.glyphs (below : Style) (s : Span) : List Glyph :=
  ((Text.clusters s.text.toList).filter (· ≠ ['\n'])).map fun chars => ⟨chars, s.style.onto below⟩

namespace Line

/-- A line of one text without a style. -/
def plain (text : String) : Line := [⟨text, .none⟩]

/-- The lines of a text put into one line. -/
def joined (text : String) : Line :=
  (Text.lines text.toList).map fun line => ⟨.ofList line, .none⟩

/-- The first line of a text. -/
def first (text : String) : Line :=
  [⟨.ofList ((Text.lines text.toList).headD []), .none⟩]

/-- The glyphs of a line in the styles of its spans over another. -/
def glyphs (below : Style) (line : Line) : List Glyph := line.flatMap (Span.glyphs below)

end Line

namespace Row

/-- A row of blanks. -/
def blank (width : Nat) (style : Style := .none) : Row := List.replicate width ⟨[' '], style⟩

def ofGlyphs (gs : List Glyph) : Row := gs.flatMap Glyph.cells

/-- The row with blanks after it, so that it has at least `width` cells. -/
def padTo (width : Nat) (style : Style) (row : Row) : Row :=
  row ++ blank (width - row.length) style

/-- The glyphs that fit into a width, up to the first that does not. One that is wider than all of
it is left out. -/
def fitting (width : Nat) : Nat → List Glyph → List Glyph
  | _, [] => []
  | room, g :: rest =>
      if width < g.width then fitting width room rest
      else if room < g.width then []
      else g :: fitting width (room - g.width) rest

/-- The row of a line that is cut where it does not fit, in a style. -/
def ofLine (width : Nat) (style : Style) (line : Line) : Row :=
  padTo width style (ofGlyphs (fitting width width (line.glyphs style)))

/-- The row of a line in the middle of a width, in a style. -/
def centred (width : Nat) (style : Style) (line : Line) : Row :=
  let gs := fitting width width (line.glyphs style)
  padTo width style (blank (width / 2 - glyphsWidth gs / 2) style ++ ofGlyphs gs)

/-- The row with a style put over that of each cell. -/
def highlight (style : Style) (row : Row) : Row :=
  row.map fun cell => { cell with style := style.onto cell.style }

/-- The text of a row without the spaces it ends with. -/
def text (row : Row) : String :=
  .ofList (((row.flatMap Cell.chars).reverse.dropWhile (· = ' ')).reverse)

/-- A run of cells of one style: its first column, its length and its style. -/
structure Run where
  start : Nat
  length : Nat
  style : Style
  deriving DecidableEq, Repr

/-- The runs of a row from a column on, each as long as can be. -/
def runsFrom (column : Nat) : Row → List Run
  | [] => []
  | cell :: rest =>
      match runsFrom (column + 1) rest with
      | run :: runs =>
          if run.style = cell.style then ⟨column, run.length + 1, run.style⟩ :: runs
          else ⟨column, 1, cell.style⟩ :: run :: runs
      | [] => [⟨column, 1, cell.style⟩]

/-- The runs of a row that have a style. -/
def runs (row : Row) : List Run := (runsFrom 0 row).filter (·.style ≠ .none)

end Row

/-! ### Blocks of rows -/

/-- As many rows as asked for: those there are, and blank ones after them. -/
def fillRows (width height : Nat) (rows : List Row) : List Row :=
  rows.take height ++ List.replicate (height - rows.length) (Row.blank width)

/-- A row between the sides of a border. A glyph at the end that is too wide covers the border. -/
def sided (width : Nat) (border : Style) (row : Row) : Row :=
  let side : Cell := ⟨['│'], border⟩
  side :: if width < row.length then row else row.padTo width .none ++ [side]

/-- The rows with a border around them and a title in its upper edge, `width` and `height` being
those of all of it. -/
def framed (width height : Nat) (title : String) (border : Style) (rows : List Row) : List Row :=
  let inner := width - 2
  let edge (c : Char) : Cell := ⟨[c], border⟩
  let titled := Row.ofGlyphs (Row.fitting inner inner (Span.glyphs border ⟨title, .none⟩))
  let upper := titled ++ List.replicate (inner - titled.length) (edge '─')
  (edge '┌' :: upper ++ [edge '┐']) ::
    (fillRows inner (height - 2) rows).map (sided inner border) ++
    [edge '└' :: List.replicate inner (edge '─') ++ [edge '┘']]

/-- Two blocks of rows beside each other. -/
def beside (left right : List Row) : List Row := List.zipWith (· ++ ·) left right

end Counsel.Screen
