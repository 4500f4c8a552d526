import Counsel.Dialogue.Reply
import Counsel.Dialogue.Request
import Counsel.Navigation

/-!
The state of a workspace's dialogue, and what the user and the dialogue service do to it.

An operation that needs the service gives an `Outbound`, a request with a ticket; its outcome comes
back later, with the ticket, through `Controller.complete`. At most one opener and one turn are
waited for. An outcome nobody waits for any more changes nothing, so a slow reply cannot end up in
a conversation the user has left.

What makes a saved session is given the `Stamp` for it; a run of the controller is over stamps
whose identifiers are new.
-/

namespace Counsel.Dialogue

/-- The number of a request, counted from one. -/
structure Ticket where
  number : Nat
  deriving DecidableEq, Repr

/-- What a request is for. -/
inductive RequestKind where
  | opener
  | turn
  deriving DecidableEq, Repr

/-- A request to be sent to the dialogue service. -/
structure Outbound where
  ticket : Ticket
  kind : RequestKind
  request : Request
  deriving DecidableEq, Repr

/-- An opener that is waited for: for the draft of a key, as long as the epoch lasts. -/
structure PendingOpener where
  ticket : Ticket
  key : SessionKey
  epoch : Nat
  deriving DecidableEq, Repr

/-- A turn that is waited for, and the conversation its reply belongs to; none if that was given
up. -/
structure PendingTurn where
  ticket : Ticket
  target : Option Selection
  deriving DecidableEq, Repr

/-- What an outcome did: whether it was applied, and the catalogue it brought. -/
structure Completion where
  applied : Bool
  axes : Option (List Axis)
  deriving DecidableEq, Repr

/-- What the dialogue is doing. -/
inductive Phase where
  /-- A draft without a conversation is on view. -/
  | idle
  /-- A draft with a conversation is on view. -/
  | active
  | viewingSaved
  /-- The opener of the draft on view is waited for. -/
  | initializing
  /-- The reply to a message of the user is waited for. -/
  | sending
  deriving DecidableEq, Repr

def Phase.name : Phase → String
  | .idle => "IdleCurrent"
  | .active => "ActiveCurrent"
  | .viewingSaved => "ViewingSaved"
  | .initializing => "Initializing"
  | .sending => "Sending"

/-- Whether something is waited for. -/
def Phase.isBusy : Phase → Bool
  | .initializing => true
  | .sending => true
  | _ => false

/-- The state of the dialogue. -/
structure Controller where
  store : Store
  navigation : Navigation
  input : String
  error : Option String
  axes : List Axis
  /-- The keys whose opener was fetched. -/
  initialized : List SessionKey
  opener : Option PendingOpener
  sending : Option PendingTurn
  /-- Raised whenever the conversation on view is replaced. It is counted without a bound: no run
  comes near `2 ^ 64` of these. -/
  epoch : Nat
  /-- How many requests were issued; without a bound, like `epoch`. -/
  lastTicket : Nat
  deriving DecidableEq, Repr

/-- Stands for an opener that could not be fetched. -/
def openerApology : String :=
  "Sorry, I couldn't start this conversation. Tell me about your decision to begin."

/-- Stands for a reply that could not be fetched. -/
def turnApology : String :=
  "Sorry, something went wrong reaching the assistant. Please try again."

/-- What a draft starts with after the last one was saved. -/
def readyMessage : String := "LLM ready. Ask about your decision."

/-- Nothing was applied. -/
def Completion.discarded : Completion := ⟨false, none⟩

namespace Controller

/-- The dialogue of a workspace just opened. -/
def new (navigation : Navigation) : Controller where
  store := .new navigation.key
  navigation := navigation
  input := ""
  error := none
  axes := Axis.defaultCatalogue
  initialized := []
  opener := none
  sending := none
  epoch := 0
  lastTicket := 0

/-- Whether the opener for the draft as it is now is waited for. -/
def awaitsOpener (c : Controller) : Bool :=
  match c.opener with
  | some p => p.epoch = c.epoch && p.key = c.store.draft.key
  | none => false

/-- What the dialogue is doing. -/
def phase (c : Controller) : Phase :=
  if c.sending.isSome then .sending
  else match c.store.selection with
    | .saved _ => .viewingSaved
    | .current =>
        if c.awaitsOpener then .initializing
        else if c.store.draft.hasContent then .active
        else .idle

/-- Replaces what stands in the input field. -/
def setInput (c : Controller) (text : String) : Controller := { c with input := text }

/-- Whether an opener would be welcome in the draft: it is on view and empty, nothing is saved for
its key, and no opener was fetched for it. -/
def wantsOpener (c : Controller) : Bool :=
  c.store.selection = .current && !c.store.draft.hasContent &&
    !c.store.hasSaved c.store.draft.key && !c.initialized.contains c.store.draft.key

/-- The ticket of the next request. -/
def nextTicket (c : Controller) : Ticket := ⟨c.lastTicket + 1⟩

/-- Asks for an opener where the draft wants one and none is on its way. -/
def ensureOpener (c : Controller) : Controller × Option Outbound :=
  if c.wantsOpener && !c.awaitsOpener then
    ({ c with
        lastTicket := c.lastTicket + 1
        opener := some ⟨c.nextTicket, c.store.draft.key, c.epoch⟩ },
      some ⟨c.nextTicket, .opener, .opener c.store.draft.key.tool Selection.current.wireId⟩)
  else (c, none)

/-- Points a reply meant for the draft to another place, or to none. -/
def retarget (c : Controller) (dest : Option Selection) : Controller :=
  { c with
    sending := c.sending.map fun p =>
      if p.target = some .current then { p with target := dest } else p }

/-- Saves the draft about to be replaced, if it has a conversation that is not saved yet. A reply
on its way to the draft follows it, or is given up with it. -/
def leaveDraft (c : Controller) (stamp : Stamp) : Controller :=
  if c.store.draft.hasContent then
    let c := { c with initialized := c.initialized.erase c.store.draft.key }
    if c.store.draftIsSaved then c.retarget none
    else { c with store := c.store.promote stamp }.retarget (some (.saved stamp.id))
  else c.retarget none

/-- Starts on a navigation with an empty draft, and shows the latest session saved for it. -/
def enter (c : Controller) (dest : Navigation) : Controller :=
  let store := c.store.resetDraft dest.key []
  { c with
    epoch := c.epoch + 1
    navigation := dest
    error := none
    store := store.select (match store.find? dest.key with
      | some s => .saved s.id
      | none => .current) }

/-- Goes to a tool and an axis. Nothing happens where the dialogue is there already. -/
def navigate (c : Controller) (dest : Navigation) (stamp : Stamp) :
    Controller × Option Outbound :=
  if dest.normalise = c.navigation then (c, none)
  else
    let c := (c.leaveDraft stamp).enter dest.normalise
    if c.store.hasSaved c.navigation.key then (c, none) else c.ensureOpener

/-- The tool of the conversation on view. -/
def activeTool (c : Controller) : Tool :=
  match c.store.selection with
  | .saved id => ((c.store.get? id).map (·.tool)).getD c.store.draft.key.tool
  | .current => c.store.draft.key.tool

/-- The request for the reply to what stands in the input field. -/
def turnRequest (c : Controller) : Request :=
  .turn c.activeTool c.store.selection.wireId c.input
    ((c.store.messages? c.store.selection).getD [])

/-- Whether the input field can be sent: it is not blank, and no reply is waited for. -/
def canSubmit (c : Controller) : Bool := Text.trim c.input ≠ "" && c.sending.isNone

/-- Sends the input field as a message of the user to the conversation on view. -/
def submit (c : Controller) : Controller × Option Outbound :=
  if c.canSubmit then
    ({ c with
        input := ""
        store := c.store.append c.store.selection (.user c.input)
        error := none
        lastTicket := c.lastTicket + 1
        sending := some ⟨c.nextTicket, some c.store.selection⟩ },
      some ⟨c.nextTicket, .turn, c.turnRequest⟩)
  else (c, none)

/-- Whether the outcome of a pending opener still has a place: the draft it was for is on view and
as empty as it was. -/
def stillWants (c : Controller) (p : PendingOpener) : Bool :=
  p.epoch = c.epoch && c.store.draft.key = p.key && c.wantsOpener

/-- The text that an outcome puts into the draft as its opener. -/
def openerText : Outcome → String
  | .ok reply => reply.text
  | .error _ => openerApology

/-- The catalogue that an outcome brings. -/
def axesOf : Outcome → Option (List Axis)
  | .ok reply => reply.axes
  | .error _ => none

/-- Applies the outcome of the opener that is waited for. -/
def completeOpener (c : Controller) (p : PendingOpener) (outcome : Outcome) :
    Controller × Completion :=
  let c := { c with opener := none }
  if c.stillWants p then
    ({ c with
        store := c.store.append .current (.assistant (openerText outcome))
        initialized := c.initialized.insert p.key
        axes := (axesOf outcome).getD c.axes },
      ⟨true, axesOf outcome⟩)
  else (c, .discarded)

/-- Applies the outcome of the turn that is waited for. -/
def completeTurn (c : Controller) (p : PendingTurn) (outcome : Outcome) :
    Controller × Completion :=
  let c := { c with sending := none }
  match p.target, outcome with
  | none, _ => (c, .discarded)
  | some target, .ok reply =>
      if c.store.holds target then
        ({ c with
            store := c.store.append target (.assistant reply.text)
            axes := reply.axes.getD c.axes },
          ⟨true, reply.axes⟩)
      else (c, .discarded)
  | some target, .error failure =>
      ({ c with
          store := c.store.append target (.assistant turnApology)
          error := some failure.message },
        ⟨true, none⟩)

/-- Applies the outcome of a request, if it is waited for. -/
def complete (c : Controller) (ticket : Ticket) (outcome : Outcome) : Controller × Completion :=
  match c.opener.filter (·.ticket = ticket), c.sending.filter (·.ticket = ticket) with
  | some p, _ => c.completeOpener p outcome
  | none, some p => c.completeTurn p outcome
  | none, none => (c, .discarded)

/-- Saves the draft, if it has a conversation, and starts on a fresh one for the same key. Whatever
was waited for is given up. -/
def save (c : Controller) (stamp : Stamp) : Controller × Option SessionId :=
  if c.store.draft.hasContent then
    let key := c.store.draft.key
    ({ c with
        store := ((c.store.promote stamp).resetDraft key [.system readyMessage]).select .current
        input := ""
        error := none
        sending := none
        opener := none
        initialized := c.initialized.erase key
        epoch := c.epoch + 1 },
      some stamp.id)
  else (c, none)

/-- Puts a selection on view, or the draft if it names nothing. -/
def select (c : Controller) (selection : Selection) : Controller × Option Outbound :=
  { c with store := c.store.select selection }.ensureOpener

/-- Removes a saved session. -/
def delete (c : Controller) (id : SessionId) : Controller × Option Outbound :=
  { c with store := c.store.delete id }.ensureOpener

/-- Gives a saved session another title. -/
def rename (c : Controller) (id : SessionId) (title : String) : Controller :=
  { c with store := c.store.rename id title }

end Controller
end Counsel.Dialogue
