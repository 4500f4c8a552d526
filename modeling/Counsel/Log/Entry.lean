import Counsel.Log.Note
import Counsel.Text.Blank
import Counsel.Text.Utf8
import Counsel.Time.Instant

/-!
Entries of the log pane, read from what is written to the log.

A line starts with a time stamp and a level; a target before the first colon and space is left out.
A line without a time stamp is an entry as it stands. `Note.line` is the line of a note, and reading
it gives the note's level and text.
-/

namespace Counsel.Log

/-- An entry of the log pane. A line that had no time stamp gives no time. -/
structure Entry where
  level : Level
  message : String
  time : Option Instant
  deriving DecidableEq, Repr

namespace Level

/-- Every level, gravest first. -/
def all : List Level := [.error, .warn, .info, .debug, .trace]

/-- The level a text names, in letters of either case; `info` if it names none. No letter outside
ASCII has a capital in one of the names. -/
def ofText (s : String) : Level :=
  (all.find? (·.name = Text.upperAscii (Text.trim s))).getD .info

/-- The level of this name in small letters, if it is one. -/
def ofSetting? (s : String) : Option Level :=
  all.find? (Text.lowerAscii ·.name = s)

end Level

namespace Entry

/-- An entry as it stands. -/
def plain (message : String) : Entry := ⟨.info, message, none⟩

/-- The message in what follows the level: without a target, which has no space in it. -/
def messageOf (rest : List Char) : List Char :=
  match Text.splitOnce [':', ' '] rest with
  | some (target, message) => if target.contains ' ' then rest else message
  | none => rest

/-- The entry of a line; none for a blank one. The level is looked for from the start of the line,
so what follows its first occurrence is the message. -/
def ofLine (line : List Char) : Option Entry :=
  let line := Text.trimChars line
  if line.isEmpty then none
  else match Text.words line with
    | stamp :: level :: _ =>
        match Instant.parse? stamp with
        | some time =>
            let rest := ((Text.splitOnce level line).map (·.2)).getD []
            some ⟨Level.ofText (.ofList level),
              .ofList (messageOf (Text.trimStartChars rest)), some time⟩
        | none => some (plain (.ofList line))
    | _ => some (plain (.ofList line))

/-- The entries of what is written at once. -/
def ofText (s : List Char) : List Entry := (Text.lines s).filterMap ofLine

/-- The entries of bytes that are written at once. -/
def ofBytes (bytes : List UInt8) : List Entry := ofText (Text.Utf8.decodeLossy bytes)

end Entry

/-! ### Lines of notes -/

/-- The line of a note at a time, without its end. -/
def Note.line (time : Instant) (n : Note) : String :=
  time.text ++ " " ++ Text.padLeft 5 n.level.name ++ " " ++ n.origin.target ++ ": " ++ n.text

/-- The entries that a note gives, a text of several lines giving several. -/
def Note.entries (time : Instant) (n : Note) : List Entry :=
  Entry.ofText ((n.line time).toList ++ ['\n'])

end Counsel.Log
