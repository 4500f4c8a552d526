import Counsel.Dialogue.Controller
import Counsel.Log.Note

/-!
What is noted of each operation on the dialogue, in the order in which it happens. The notes of an
operation are a function of the state it starts from.
-/

namespace Counsel.Dialogue.Controller

open Counsel.Log

/-- A note of the controller itself. -/
def noted (level : Level) (text : String) : Note := ⟨level, .controller, text⟩

/-- A ticket as notes show it. -/
def ticketText (t : Ticket) : String := "Ticket(" ++ toString t.number ++ ")"

/-- A selection as notes show it. -/
def selectionText : Selection → String
  | .current => "Current"
  | .saved id => "Saved(SessionId(" ++ id.text ++ "))"

def ensureOpenerNotes (c : Controller) : List Note :=
  if c.wantsOpener && !c.awaitsOpener then
    [noted .debug ("Requesting opener for " ++ c.store.draft.key.text ++ " (" ++
      ticketText c.nextTicket ++ ")")]
  else []

/-- The note of a draft that is saved. -/
def promoteNotes (c : Controller) (stamp : Stamp) : List Note :=
  [⟨.debug, .session, "Saved dialogue " ++ stamp.id.text ++ " as '" ++
    (c.store.sessionOfDraft stamp).title ++ "'"⟩]

def leaveDraftNotes (c : Controller) (stamp : Stamp) : List Note :=
  if !c.store.draft.hasContent then []
  else if c.store.draftIsSaved then
    [noted .debug ("Draft for " ++ c.store.draft.key.text ++
      " matches a saved dialogue, not saving again")]
  else c.promoteNotes stamp ++ [noted .info ("Auto-saved dialogue " ++ stamp.id.text)]

def navigateNotes (c : Controller) (dest : Navigation) (stamp : Stamp) : List Note :=
  if dest.normalise = c.navigation then
    [noted .debug ("Navigation to " ++ dest.normalise.query ++ " repeated, ignoring")]
  else
    let arrived := (c.leaveDraft stamp).enter dest.normalise
    noted .info ("Switching dialogue to " ++ dest.normalise.query) :: c.leaveDraftNotes stamp ++
      if arrived.store.hasSaved arrived.navigation.key then [] else arrived.ensureOpenerNotes

def submitNotes (c : Controller) : List Note :=
  if Text.trim c.input ≠ "" ∧ c.sending.isSome then
    [noted .debug "Send ignored, a reply is still pending"]
  else []

def completeOpenerNotes (c : Controller) (p : PendingOpener) (outcome : Outcome) : List Note :=
  if !{ c with opener := none }.stillWants p then
    [noted .debug ("Opener for " ++ p.key.text ++ " arrived too late, discarding")]
  else match outcome with
    | .ok _ => []
    | .error e =>
        [noted .warn ("Failed to fetch opener for " ++ p.key.text ++ ": " ++ e.message)]

def completeTurnNotes (c : Controller) (p : PendingTurn) (outcome : Outcome) : List Note :=
  match p.target, outcome with
  | none, _ => [noted .debug "Reply for a discarded draft arrived, dropping it"]
  | some target, .ok _ =>
      if c.store.holds target then []
      else [noted .debug ("Dialogue " ++ selectionText target ++ " is gone, dropping reply")]
  | some _, .error e => [noted .warn ("Dialogue turn failed: " ++ e.message)]

def completeNotes (c : Controller) (ticket : Ticket) (outcome : Outcome) : List Note :=
  match c.opener.filter (·.ticket = ticket), c.sending.filter (·.ticket = ticket) with
  | some p, _ => c.completeOpenerNotes p outcome
  | none, some p => c.completeTurnNotes p outcome
  | none, none => [noted .debug ("Discarding stale dialogue response " ++ ticketText ticket)]

def saveNotes (c : Controller) (stamp : Stamp) : List Note :=
  if c.store.draft.hasContent then
    c.promoteNotes stamp ++
      [noted .info ("Saved dialogue " ++ stamp.id.text ++ " for " ++ c.store.draft.key.text)]
  else []

/-- The note of a selection that names nothing. -/
def storeSelectNotes (store : Store) (selection : Selection) : List Note :=
  if store.holds selection then []
  else [⟨.debug, .session, "Selection " ++ selectionText selection ++
    " no longer exists, viewing draft"⟩]

def selectNotes (c : Controller) (selection : Selection) : List Note :=
  storeSelectNotes c.store selection ++
    { c with store := c.store.select selection }.ensureOpenerNotes

def deleteNotes (c : Controller) (id : SessionId) : List Note :=
  (if (c.store.get? id).isSome then [noted .info ("Deleted dialogue " ++ id.text)] else []) ++
    { c with store := c.store.delete id }.ensureOpenerNotes

end Counsel.Dialogue.Controller

namespace Counsel.Navigation

open Counsel.Log

/-- A note for each unknown tool of a query string. -/
def queryNotes (query : String) (default : Tool) : List Note :=
  (unknownTools query).map fun s =>
    ⟨.warn, .navigation, Tool.unknownMessage s ++ ", using " ++ default.slug⟩

end Counsel.Navigation
