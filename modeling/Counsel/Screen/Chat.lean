import Counsel.Dialogue.Actor
import Counsel.Log.Buffer
import Counsel.Screen.Key

/-!
The chat screen: what it shows of the dialogue, what is typed, where its cursors stand, and what a
key does.

A key changes the screen itself, or it asks something of the dialogue as well. What was asked is
carried out by the actor; the screen then hears the answer and looks at the dialogue again.
-/

namespace Counsel.Screen

open Counsel.Dialogue

/-- The parts of the screen that keys can be for. -/
inductive Pane where
  | input
  | tools
  | axes
  | saved
  deriving DecidableEq, Repr

/-- The pane that comes after one; there is one after the last. -/
def Pane.next : Pane → Pane
  | .input => .tools
  | .tools => .axes
  | .axes => .saved
  | .saved => .input

/-- The state of the chat screen. -/
structure Chat where
  /-- What was last seen of the dialogue. -/
  snapshot : Snapshot
  input : String
  /-- The pane that keys are for. -/
  focus : Pane
  /-- The tool that is marked, by its place among all tools. -/
  toolCursor : Nat
  /-- The axis that is marked, counted from one; zero is for no axis. -/
  axisCursor : Nat
  /-- The saved session that is marked, by its place in the list. -/
  savedCursor : Nat
  status : String
  log : Log.Buffer
  /-- How often the spinner has turned. -/
  turns : Nat

/-- What a key asks of the dialogue. -/
inductive Wish where
  | send (text : String)
  | save
  | navigate (dest : Navigation)
  | select (selection : Selection)
  | delete (id : SessionId)
  | rename (id : SessionId) (title : String)
  /-- Only to be looked at again. -/
  | look
  deriving DecidableEq, Repr

/-- What the actor is told for a wish; the answer to the last of it is the answer to the wish. -/
def Wish.commands : Wish → List Command
  | .send text => [.setInput text, .submit]
  | .save => [.save]
  | .navigate dest => [.navigate dest]
  | .select selection => [.select selection]
  | .delete id => [.delete id]
  | .rename id title => [.rename id title]
  | .look => []

/-- What a key does. -/
inductive Reaction where
  | leave
  | stay (chat : Chat)
  | ask (chat : Chat) (wish : Wish)

namespace Chat

/-- What the status line says at first. -/
def welcome : String := "Tab: switch pane | Enter: send | Ctrl+S: save | Ctrl+C: quit"

/-- The screen as it opens on a dialogue. -/
def ofSnapshot (s : Snapshot) : Chat where
  snapshot := s
  input := ""
  focus := .input
  toolCursor := (Tool.all.findIdx? (· = s.tool)).getD 0
  axisCursor := 0
  savedCursor := 0
  status := welcome
  log := .empty
  turns := 0

/-- The screen after another look at the dialogue; no cursor is left behind the end of its list. -/
def refresh (chat : Chat) (s : Snapshot) : Chat :=
  { chat with
    snapshot := s
    axisCursor := min chat.axisCursor s.axes.length
    savedCursor := min chat.savedCursor (s.saved.length - 1) }

/-- The screen with one more entry of the log. -/
def addEntry (chat : Chat) (e : Log.Entry) : Chat := { chat with log := chat.log.push e }

/-! ### Keys -/

/-- A navigation is asked for, and the status line says where. -/
def navigate (chat : Chat) (dest : Navigation) : Reaction :=
  .ask { chat with status := "?" ++ dest.query } (.navigate dest)

/-- A key for the line that is typed. -/
def pressInput (chat : Chat) : Key → Reaction
  | .enter => if Text.trim chat.input = "" then .stay chat else .ask chat (.send chat.input)
  | .backspace => .stay { chat with input := .ofList chat.input.toList.dropLast }
  | .char c _ => .stay { chat with input := chat.input.push c }
  | _ => .stay chat

/-- A key for the list of tools. -/
def pressTools (chat : Chat) : Key → Reaction
  | .up => .stay { chat with toolCursor := chat.toolCursor - 1 }
  | .down => .stay { chat with toolCursor := min (chat.toolCursor + 1) (Tool.all.length - 1) }
  | .enter =>
      match Tool.all[chat.toolCursor]? with
      | some tool => chat.navigate (.of tool chat.snapshot.axis)
      | none => .stay chat
  | _ => .stay chat

/-- The key of the axis that is marked, if one is. -/
def markedAxis (chat : Chat) : Option String :=
  match chat.axisCursor with
  | 0 => none
  | i + 1 => (chat.snapshot.axes[i]?).map Axis.key

/-- A key for the list of axes. -/
def pressAxes (chat : Chat) : Key → Reaction
  | .up => .stay { chat with axisCursor := chat.axisCursor - 1 }
  | .down =>
      .stay { chat with axisCursor := min (chat.axisCursor + 1) chat.snapshot.axes.length }
  | .enter => chat.navigate (.of chat.snapshot.tool chat.markedAxis)
  | _ => .stay chat

/-- The saved session that is marked, if there is one. -/
def markedSaved (chat : Chat) : Option SessionId :=
  (chat.snapshot.saved[chat.savedCursor]?).map Summary.id

/-- What is asked of the session that is marked; without one the dialogue is only looked at. -/
def askMarked (chat : Chat) (ask : SessionId → Chat × Wish) : Reaction :=
  match chat.markedSaved with
  | some id => .ask (ask id).1 (ask id).2
  | none => .ask chat .look

def deleteMarked (chat : Chat) : Reaction :=
  chat.askMarked fun id => ({ chat with status := "Dialogue deleted" }, .delete id)

/-- A key for the list of saved sessions. A session is renamed to what is typed. -/
def pressSaved (chat : Chat) : Key → Reaction
  | .up => .ask { chat with savedCursor := chat.savedCursor - 1 } .look
  | .down =>
      let last := chat.snapshot.saved.length - 1
      .ask { chat with savedCursor := min (chat.savedCursor + 1) last } .look
  | .enter => chat.askMarked fun id => (chat, .select (.saved id))
  | .char 'c' _ => .ask chat (.select .current)
  | .char 'd' _ => chat.deleteMarked
  | .delete => chat.deleteMarked
  | .char 'r' _ => chat.askMarked fun id => ({ chat with input := "" }, .rename id chat.input)
  | _ => .ask chat .look

/-- What a key does on the screen: some keys are the same in every pane. -/
def press (chat : Chat) : Key → Reaction
  | .char 'c' true => .leave
  | .escape => .leave
  | .tab => .stay { chat with focus := chat.focus.next }
  | .char 's' true => .ask chat .save
  | key =>
      match chat.focus with
      | .input => chat.pressInput key
      | .tools => chat.pressTools key
      | .axes => chat.pressAxes key
      | .saved => chat.pressSaved key

/-- The screen when the answer to a wish is heard. -/
def hear (chat : Chat) (wish : Wish) (answer : Answer) : Chat :=
  match wish, answer with
  | .save, .savedAs (some id) => { chat with status := "Saved dialogue " ++ id.text }
  | .save, _ => { chat with status := "Nothing to save yet" }
  | .send _, .decided true => { chat with input := "" }
  | .send _, _ => { chat with status := "Still waiting for the assistant" }
  | _, _ => chat

/-- The screen after what a wish came to. -/
def settle (chat : Chat) (wish : Wish) (answer : Answer) (s : Snapshot) : Chat :=
  (chat.hear wish answer).refresh s

/-- The spinner turns while something is waited for, once for each tick so far; a tick that went by
at another time is made up for. -/
def spin (chat : Chat) (ticks : Nat) : Chat :=
  if chat.snapshot.isBusy then { chat with turns := max chat.turns ticks } else chat

/-! ### Notes -/

/-- What is noted when the screen is told of an event. -/
def eventNotes : Event → List Log.Note
  | .axes catalogue => [⟨.info, .screen, "Received " ++ toString catalogue.length ++ " axes"⟩]
  | .changed => []

/-- What is noted when the screen is left. -/
def leaveNotes : List Log.Note := [⟨.info, .screen, "Leaving chat"⟩]

end Chat
end Counsel.Screen
