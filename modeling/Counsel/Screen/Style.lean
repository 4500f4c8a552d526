import Counsel.Axis
import Counsel.Log.Level

/-!
How a cell of the screen looks: the colours of its character and of what is behind it, and whether
it is bold, underlined or reversed.
-/

namespace Counsel.Screen

/-- A colour of a terminal: its own, one of its palette, or any other. -/
inductive Paint where
  | plain
  | red
  | green
  | yellow
  | blue
  | cyan
  | gray
  | darkGray
  | white
  | exact (colour : Colour)
  deriving DecidableEq, Repr

/-- The looks of a cell. -/
structure Style where
  fore : Paint := .plain
  back : Paint := .plain
  bold : Bool := false
  underlined : Bool := false
  reversed : Bool := false
  deriving DecidableEq, Repr

namespace Paint

def name : Paint → String
  | .plain => "Reset"
  | .red => "Red"
  | .green => "Green"
  | .yellow => "Yellow"
  | .blue => "Blue"
  | .cyan => "Cyan"
  | .gray => "Gray"
  | .darkGray => "DarkGray"
  | .white => "White"
  | .exact c => c.text

/-- The number of a colour in the palette, or its parts. -/
def code : Paint → String
  | .plain => "-"
  | .red => "1"
  | .green => "2"
  | .yellow => "3"
  | .blue => "4"
  | .cyan => "6"
  | .gray => "7"
  | .darkGray => "8"
  | .white => "15"
  | .exact c => c.text

end Paint

namespace Style

/-- No style at all. -/
def none : Style := {}

def ofFore (paint : Paint) : Style := { fore := paint }

/-- A style put over another: it takes what it does not say from the one below. -/
def onto (top below : Style) : Style where
  fore := if top.fore = .plain then below.fore else top.fore
  back := if top.back = .plain then below.back else top.back
  bold := top.bold || below.bold
  underlined := top.underlined || below.underlined
  reversed := top.reversed || below.reversed

/-- The colours and the marks of a style in one word. -/
def text (s : Style) : String :=
  s.fore.code ++ "/" ++ s.back.code ++ (if s.bold then "b" else "") ++
    (if s.underlined then "u" else "") ++ (if s.reversed then "r" else "")

end Style

/-- The colour of a level in the log pane. -/
def levelPaint : Log.Level → Paint
  | .error => .red
  | .warn => .yellow
  | .info => .cyan
  | .debug => .gray
  | .trace => .darkGray

end Counsel.Screen
