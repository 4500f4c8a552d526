import Counsel.Screen.Chat
import Counsel.Screen.Wrap

/-!
The picture of the chat screen: a header, three lists on the left, the conversation and the typed
line on the right, the log below them and a status line.

The heights, offsets and columns that depend on how much there is to show are words of 16 bits, as
the coordinates of terminals are. A terminal with fewer rows or columns than the panes need has no
picture of its own.
-/

namespace Counsel.Screen

open Counsel.Dialogue

/-! ### Measures -/

/-- How many columns the lists take. -/
def sidebarWidth : Nat := 30

/-- How many rows the log takes. -/
def logHeight : Nat := 6

/-- How many rows the typed line takes. -/
def inputHeight : Nat := 3

/-- How many rows the list of tools takes: its tools and stages, and the border. -/
def toolsHeight : UInt16 := Tool.all.length.toUInt16 + 4

/-- How many rows the list of so many axes takes: the axes, the choice of none, and the border. -/
def axesHeight (axes : Nat) : UInt16 := axes.toUInt16 + 3

/-- How many rows the list of saved sessions takes at least. -/
def leastSavedHeight : Nat := 3

/-- How many rows of a body the list of axes gets: what it takes, as long as the lists above and
below it have theirs. -/
def axesRoom (body axes : Nat) : Nat :=
  min (axesHeight axes).toNat (body - toolsHeight.toNat - leastSavedHeight)

/-- How many rows are left for the panes between the header and the log. -/
def bodyHeight (height : Nat) : Nat := height - (1 + logHeight + 1)

/-- How many rows of so many are scrolled away where `visible` of them show. -/
def scrollOffset (rows visible : Nat) : UInt16 := (rows - visible).toUInt16

/-- The part of a screen that a pane takes: its upper left corner and its size. -/
structure Area where
  left : UInt16
  top : UInt16
  width : UInt16
  height : UInt16
  deriving DecidableEq, Repr

namespace Area

/-- The column after the last one of a pane. -/
def right (area : Area) : UInt16 :=
  .ofNat (min (area.left.toNat + area.width.toNat) (UInt16.size - 1))

/-- The column after so many typed characters, whether it is inside the pane or not. -/
def typedColumn (area : Area) (typed : Nat) : UInt16 := area.left + 1 + typed.toUInt16

/-- The column of the cursor after so many typed characters: the one after them, or the last one
inside the pane. -/
def cursorColumn (area : Area) (typed : Nat) : UInt16 :=
  min (area.typedColumn typed) (.ofNat (area.right.toNat - 2))

/-- The row of the cursor: the first one inside the pane. -/
def cursorRow (area : Area) : UInt16 := area.top + 1

end Area

/-- Where the typed line is on a screen of so many columns and rows. -/
def inputArea (width height : Nat) : Area where
  left := sidebarWidth.toUInt16
  top := (1 + (bodyHeight height - inputHeight)).toUInt16
  width := (width - sidebarWidth).toUInt16
  height := inputHeight.toUInt16

/-! ### Lists -/

/-- What is put over the row that is marked. -/
def marking : Style := { reversed := true }

/-- The first item that shows of a list in so many rows; the marked one always shows. -/
def firstShown (height : Nat) (marked : Option Nat) : Nat :=
  match marked with
  | some i => i + 1 - height
  | none => 0

/-- The rows of a list. -/
def listRows (width height : Nat) (items : List Line) (marked : Option Nat) : List Row :=
  let marked := marked.map (min · (items.length - 1))
  let rows := items.mapIdx fun i item =>
    let row := Row.ofLine width .none item
    if marked = some i then row.highlight marking else row
  (rows.drop (firstShown height marked)).take height

/-- A list in a border that tells whether keys are for it. -/
def listPane (chat : Chat) (pane : Pane) (title : String) (height : Nat) (items : List Line)
    (marked : Option Nat) : List Row :=
  let border : Style := .ofFore (if chat.focus = pane then .yellow else .blue)
  framed sidebarWidth height title border (listRows (sidebarWidth - 2) (height - 2) items marked)

/-- The tools of a stage under its name, each with its line. -/
def stageItems (active : Tool) (stage : Stage) : List (Option Tool × Line) :=
  (none, [⟨stage.label, { fore := .darkGray, bold := true }⟩]) ::
    (Tool.ofStage stage).map fun tool =>
      (some tool, [⟨"  " ++ tool.label,
        if tool = active then { fore := .green, bold := true } else .none⟩])

def toolsPane (chat : Chat) : List Row :=
  let items := Stage.all.flatMap (stageItems chat.snapshot.tool)
  let marked := (Tool.all[chat.toolCursor]?).bind fun tool =>
    items.findIdx? fun item => item.1 = some tool
  listPane chat .tools "Tools" toolsHeight.toNat (items.map (·.2)) marked

/-- The style of an axis, which tells whether it is chosen. -/
def axisStyle (active : Bool) (paint : Paint) : Style :=
  { fore := paint, bold := active, underlined := active }

def axesPane (chat : Chat) (height : Nat) : List Row :=
  let s := chat.snapshot
  let noAxis : Line := [⟨"(no axis)", axisStyle s.axis.isNone .gray⟩]
  let items := s.axes.map fun axis : Axis =>
    let style := axisStyle (s.axis = some axis.key) (.exact (Axis.colourOf axis.key))
    ([⟨"● " ++ axis.label, style⟩] : Line)
  listPane chat .axes "Axis" height (noAxis :: items) (some chat.axisCursor)

def savedPane (chat : Chat) (height : Nat) : List Row :=
  let s := chat.snapshot
  let items := s.saved.map fun session : Summary =>
    Line.plain ((if s.selection = .saved session.id then "▶ " else "  ") ++ session.title)
  let marked := if s.saved.isEmpty then none else some chat.savedCursor
  listPane chat .saved "Saved (Enter/c/d/r)" height items marked

/-! ### The conversation -/

/-- Who says a message, with the colour of the name. -/
def speaker : Role → String × Paint
  | .user => ("you", .green)
  | .assistant => ("assistant", .cyan)
  | .system => ("system", .darkGray)

/-- The lines of a message: who says it, what it says, and an empty one. -/
def messageLines (m : Message) : List Line :=
  let (who, paint) := speaker m.role
  [[⟨who ++ ":", { fore := paint, bold := true }⟩], .joined m.text, []]

/-- The looks of the spinner, in turn. -/
def spinnerFrames : List String := ["⠋", "⠙", "⠹", "⠸"]

/-- The spinner after so many turns. -/
def spinner (turns : Nat) : String := (spinnerFrames[turns % spinnerFrames.length]?).getD ""

/-- The lines of a conversation; the last tells whether something is waited for. -/
def conversationLines (s : Snapshot) (turns : Nat) : List Line :=
  s.messages.flatMap messageLines ++
    if s.isBusy then [[⟨spinner turns ++ " thinking...", .ofFore .yellow⟩]] else []

/-- The rows of lines that show where `height` rows of `width` columns are for them. They are
wrapped, and scrolled by the number of lines that would be too many if each took one row. -/
def shownLines (width height : Nat) (lines : List Line) : List (List Glyph) :=
  let rows := wrapAll width (lines.map (Line.glyphs .none))
  (rows.drop (scrollOffset lines.length height).toNat).take height

def conversationTitle (s : Snapshot) : String :=
  if s.phase = .viewingSaved then "Saved dialogue" else "Current dialogue"

def conversationPane (chat : Chat) (width height : Nat) : List Row :=
  let lines := conversationLines chat.snapshot chat.turns
  let shown := shownLines (width - 2) (height - 2) lines
  framed width height (conversationTitle chat.snapshot) (.ofFore .blue) (shown.map Row.ofGlyphs)

def inputPane (chat : Chat) (width : Nat) : List Row :=
  let border : Style := .ofFore (if chat.focus = .input then .yellow else .blue)
  framed width inputHeight "Message" border [Row.ofLine (width - 2) .none (.first chat.input)]

/-! ### The log -/

/-- The time of an entry; one without a time shows none. -/
def entryTime (e : Log.Entry) : String := (e.time.map Instant.clockText).getD "--:--:--"

def entryLine (e : Log.Entry) : Line :=
  [⟨"[" ++ entryTime e ++ "] ", .ofFore .gray⟩,
    ⟨Text.padRight 5 e.level.name ++ " ", { fore := levelPaint e.level, bold := true }⟩,
    ⟨e.message, .ofFore .white⟩]

def logPane (log : Log.Buffer) (width : Nat) : List Row :=
  let border : Style := .ofFore .darkGray
  let inner := width - 2
  let gray : Style := .ofFore .gray
  if log.isEmpty then
    framed width logHeight "Logs" border <|
      Row.centred inner gray (.plain "No logs") ::
        List.replicate (logHeight - 3) (Row.blank inner gray)
  else
    let rows := log.entries.map fun e => Row.ofLine inner .none (entryLine e)
    framed width logHeight "Logs" border
      (rows.drop (scrollOffset log.length (logHeight - 2)).toNat)

/-! ### The whole screen -/

def headerRow (s : Snapshot) (width : Nat) : Row :=
  Row.centred width { fore := .white, back := .blue, bold := true } <|
    .first ("Decision Maker | " ++ s.tool.label ++ " (" ++ s.tool.stage.label ++ ") | " ++
      s.axis.getD "no axis")

/-- The last row: what went wrong, or else the status of the screen. -/
def statusRow (chat : Chat) (width : Nat) : Row :=
  match chat.snapshot.error with
  | some error => Row.ofLine width (.ofFore .red) (.first error)
  | none => Row.ofLine width (.ofFore .gray) (.first chat.status)

/-- The picture of a screen of so many columns and rows. -/
def view (chat : Chat) (width height : Nat) : List Row :=
  let body := bodyHeight height
  let right := width - sidebarWidth
  let axes := axesRoom body chat.snapshot.axes.length
  let saved := body - toolsHeight.toNat - axes
  let left := toolsPane chat ++ axesPane chat axes ++ savedPane chat saved
  headerRow chat.snapshot width ::
    beside left (conversationPane chat right (body - inputHeight) ++ inputPane chat right) ++
    logPane chat.log width ++ [statusRow chat width]

/-- The column and the row of the cursor, which shows only where something can be typed. -/
def cursor (chat : Chat) (width height : Nat) : Option (Nat × Nat) :=
  if chat.focus = .input then
    let area := inputArea width height
    some ((area.cursorColumn chat.input.length).toNat, area.cursorRow.toNat)
  else none

end Counsel.Screen
