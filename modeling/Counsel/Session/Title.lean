import Counsel.Message
import Counsel.Tool

/-!
Titles of saved sessions. The first session saved for a tool is called after the tool, a later one
after how its first message of the user begins.
-/

namespace Counsel.Title

/-- How many characters of a message a title shows. -/
def previewLength : Nat := 20

/-- The mark of a title that was cut. -/
def ellipsis : Char := '…'

/-- The title of a session that was renamed to nothing. -/
def untitled : String := "Untitled dialogue"

/-- The beginning of a text, marked where it was cut. -/
def preview (text : String) : String :=
  let trimmed := Text.trimChars text.toList
  if previewLength < trimmed.length then .ofList (trimmed.take previewLength ++ [ellipsis])
  else .ofList trimmed

/-- The title of a session about to be saved; `earlier` tells whether the tool has a saved one. -/
def ofMessages (tool : Tool) (messages : List Message) (earlier : Bool) : String :=
  if earlier then
    match messages.find? (·.role = .user) with
    | some first => preview first.text
    | none => tool.label
  else tool.label

/-- The title that a user's wish gives. -/
def ofWish (wish : String) : String :=
  if Text.trim wish = "" then untitled else Text.trim wish

end Counsel.Title
