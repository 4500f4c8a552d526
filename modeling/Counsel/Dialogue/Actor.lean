import Counsel.Dialogue.Journal
import Counsel.Dialogue.Snapshot

/-!
The dialogue as an actor: it handles one command or one finished request at a time, sends what the
controller wants sent, tells the screens what changed, and answers those who wait for it to be
idle.

The actor counts the requests in flight and does not know which they are; `Step.dispatched` says
which request a step sends, so a run can keep them.
-/

namespace Counsel.Dialogue

/-- What screens are told. -/
inductive Event where
  /-- Something on view changed. -/
  | changed
  /-- The service sent a new catalogue. -/
  | axes (catalogue : List Axis)
  deriving DecidableEq, Repr

/-- What the actor is asked. A waiter for idleness is known by a number. -/
inductive Command where
  | navigate (dest : Navigation)
  | setInput (text : String)
  | submit
  | save
  | select (selection : Selection)
  | delete (id : SessionId)
  | rename (id : SessionId) (title : String)
  | snapshot
  | idle (waiter : Nat)
  deriving DecidableEq, Repr

/-- What a command is answered. -/
inductive Answer where
  | done
  | decided (yes : Bool)
  | savedAs (id : Option SessionId)
  | selected (selection : Selection)
  | shown (snapshot : Snapshot)
  deriving DecidableEq, Repr

/-- The dialogue, how many requests are in flight, and who waits for none to be. -/
structure Actor where
  controller : Controller
  inFlight : Nat
  waiters : List Nat
  deriving DecidableEq, Repr

/-- What handling one command or one finished request did. -/
structure Step where
  actor : Actor
  dispatched : Option Outbound
  events : List Event
  answer : Answer
  /-- The waiters that were told of idleness. -/
  woken : List Nat
  deriving DecidableEq, Repr

namespace Actor

/-- The actor with another state of the dialogue, after what that sends was sent. -/
def dispatch (a : Actor) (c : Controller) (outbound : Option Outbound) : Actor :=
  { a with controller := c, inFlight := a.inFlight + if outbound.isSome then 1 else 0 }

/-- A step that sends what the controller wants sent, and tells of a change where there is one. -/
def step (a : Actor) (result : Controller × Option Outbound) (changed : Bool) (answer : Answer) :
    Step where
  actor := a.dispatch result.1 result.2
  dispatched := result.2
  events := if changed then [.changed] else []
  answer := answer
  woken := []

/-- The actor of a workspace just opened; it asks for an opener at once. -/
def start (navigation : Navigation) : Step :=
  step ⟨.new navigation, 0, []⟩ (Controller.new navigation).ensureOpener false .done

/-- Handles a command. The stamp is for the session that it may save. -/
def handle (a : Actor) (command : Command) (stamp : Stamp) : Step :=
  let c := a.controller
  match command with
  | .navigate dest => a.step (c.navigate dest stamp) true .done
  | .setInput text => a.step (c.setInput text, none) false .done
  | .submit =>
      let result := c.submit
      a.step result result.2.isSome (.decided result.2.isSome)
  | .save =>
      let (c, id) := c.save stamp
      a.step (c, none) id.isSome (.savedAs id)
  | .select selection =>
      let result := c.select selection
      a.step result true (.selected (c.store.select selection).selection)
  | .delete id =>
      let removed := (c.store.get? id).isSome
      a.step (c.delete id) removed (.decided removed)
  | .rename id title =>
      let renamed := (c.store.get? id).isSome
      a.step (c.rename id title, none) renamed (.decided renamed)
  | .snapshot => a.step (c, none) false (.shown c.snapshot)
  | .idle waiter =>
      if a.inFlight = 0 then { a.step (c, none) false .done with woken := [waiter] }
      else
        { a.step (c, none) false .done with
          actor := { a with waiters := a.waiters ++ [waiter] } }

/-- Handles the outcome of a request. -/
def finish (a : Actor) (ticket : Ticket) (outcome : Outcome) : Step :=
  let (c, completion) := a.controller.complete ticket outcome
  let inFlight := a.inFlight - 1
  { actor := ⟨c, inFlight, if inFlight = 0 then [] else a.waiters⟩
    dispatched := none
    events := (if completion.applied then [.changed] else []) ++
      (completion.axes.map Event.axes).toList
    answer := .done
    woken := if inFlight = 0 then a.waiters else [] }

/-! ### Notes -/

/-- What is noted while a command is handled. -/
def handleNotes (a : Actor) (command : Command) (stamp : Stamp) : List Log.Note :=
  let c := a.controller
  match command with
  | .navigate dest => c.navigateNotes dest stamp
  | .submit => c.submitNotes
  | .save => c.saveNotes stamp
  | .select selection => c.selectNotes selection
  | .delete id => c.deleteNotes id
  | _ => []

/-- What is noted when a request has an outcome, before the actor handles it. -/
def outcomeNotes (kind : RequestKind) : Outcome → List Log.Note
  | .ok _ => []
  | .error e =>
      let name := match kind with
        | .opener => "Opener"
        | .turn => "Turn"
      [⟨.debug, .actor, name ++ " request failed: " ++ e.message⟩]

/-- What is noted while the outcome of a request is handled. -/
def finishNotes (a : Actor) (ticket : Ticket) (outcome : Outcome) : List Log.Note :=
  a.controller.completeNotes ticket outcome

end Actor
end Counsel.Dialogue
