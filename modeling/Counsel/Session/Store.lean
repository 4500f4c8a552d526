import Counsel.Session.Id
import Counsel.Session.Key
import Counsel.Session.Title
import Counsel.Time.Instant

/-!
The conversations of a workspace: one draft, and the sessions saved from drafts, latest first.

The store does not make identifiers: what saves a draft is given a `Stamp`, the identifier and the
time of the new session. One of the sessions, or the draft, is on view; the view of a session that
is gone falls back to the draft (`Store.selection`).
-/

namespace Counsel

/-- What is on view: the draft, or a saved session. -/
inductive Selection where
  | current
  | saved (id : SessionId)
  deriving DecidableEq, Repr

/-- The conversation not saved yet. -/
structure Draft where
  key : SessionKey
  messages : List Message
  deriving DecidableEq, Repr

/-- What a session gets when it is saved: an identifier and the time. -/
structure Stamp where
  id : SessionId
  createdAt : Instant
  deriving DecidableEq, Repr

/-- A saved conversation. -/
structure SavedSession where
  id : SessionId
  title : String
  tool : Tool
  axis : Option String
  createdAt : Instant
  messages : List Message
  deriving DecidableEq, Repr

/-- The conversations of a workspace and which of them is on view. -/
structure Store where
  draft : Draft
  saved : List SavedSession
  /-- What was selected last; the session may be gone. -/
  selected : Selection
  deriving DecidableEq, Repr

namespace Selection

/-- The name of what is on view, as the dialogue service knows it. -/
def wireId : Selection → String
  | .current => "current"
  | .saved id => id.text

/-- The selection of a kind and of what stands under `id`. -/
def ofParts (isSaved : Bool) (id : Option Json.Doc) : Except Json.Fault Selection :=
  match isSaved, id with
  | false, none => .ok .current
  | false, some d => (Json.Decoder.nothing d).map fun _ => .current
  | true, some d => (SessionId.decoder d).map .saved
  | true, none => .error .misshapen

/-- Whether a kind of selection is that of a saved session. -/
def kindOfName? : String → Option Bool
  | "current" => some false
  | "saved" => some true
  | _ => none

/-- Reads a selection from an object with the members `type` and `id`, or from an array of the
two. -/
def decoder : Json.Decoder Selection := fun d => do
  let kind := Json.Decoder.named .nothing kindOfName?
  match d with
  | .array [first, second] true => ofParts (← kind first) (some second)
  | .array _ _ => .error .misshapen
  | d =>
      let fields : Json.Fields (Bool × Option Json.Doc) :=
        ((Json.Fields.none Prod.mk).and (.required "type" kind)).and
          (.withDefault "id" none fun d => .ok (some d))
      let (isSaved, id) ← fields.fromObject d
      ofParts isSaved id

def encode : Selection → Json.Value
  | .current => .ofMembers [("type", .text "current")]
  | .saved id => .ofMembers [("type", .text "saved"), ("id", id.encode)]

end Selection

namespace Draft

def empty (key : SessionKey) : Draft := ⟨key, []⟩

/-- Whether the draft has anything worth keeping. -/
def hasContent (draft : Draft) : Bool := Counsel.hasContent draft.messages

end Draft

namespace SavedSession

def key (s : SavedSession) : SessionKey := ⟨s.tool, s.axis⟩

/-- Whether the session is one for a key. A goal tool's sessions are for every axis. -/
def isFor (s : SavedSession) (key : SessionKey) : Bool :=
  s.tool = key.tool && (key.tool.isGoal || s.axis = key.axis)

end SavedSession

namespace Store

/-- A store with an empty draft and nothing saved. -/
def new (key : SessionKey) : Store := ⟨.empty key, [], .current⟩

/-- The saved session with an identifier. -/
def get? (store : Store) (id : SessionId) : Option SavedSession :=
  store.saved.find? (·.id = id)

/-- Whether a selection names something in the store. -/
def holds (store : Store) : Selection → Bool
  | .current => true
  | .saved id => (store.get? id).isSome

/-- What is on view: what was selected last, or the draft if that is gone. -/
def selection (store : Store) : Selection :=
  if store.holds store.selected then store.selected else .current

/-- Puts a selection on view, or the draft if it names nothing. -/
def select (store : Store) (selection : Selection) : Store :=
  { store with selected := if store.holds selection then selection else .current }

/-- The messages of a selection, if it names something. -/
def messages? (store : Store) : Selection → Option (List Message)
  | .current => some store.draft.messages
  | .saved id => (store.get? id).map (·.messages)

/-- The messages on view. -/
def activeMessages (store : Store) : List Message :=
  (store.messages? store.selection).getD store.draft.messages

/-- The latest saved session for a key. -/
def find? (store : Store) (key : SessionKey) : Option SavedSession :=
  store.saved.find? (·.isFor key)

/-- Whether a session is saved for a key. -/
def hasSaved (store : Store) (key : SessionKey) : Bool := (store.find? key).isSome

/-- Whether a session for the draft's key has exactly the draft's messages. -/
def draftIsSaved (store : Store) : Bool :=
  store.saved.any fun s => s.isFor store.draft.key && s.messages = store.draft.messages

/-- Changes the first session with an identifier. -/
def updateFirst (id : SessionId) (change : SavedSession → SavedSession) :
    List SavedSession → List SavedSession
  | [] => []
  | s :: rest => if s.id = id then change s :: rest else s :: updateFirst id change rest

/-- Adds a message to what a selection names, if it names something. -/
def append (store : Store) (target : Selection) (message : Message) : Store :=
  match target with
  | .current =>
      { store with
        draft := { store.draft with messages := store.draft.messages ++ [message] } }
  | .saved id =>
      { store with
        saved := updateFirst id (fun s => { s with messages := s.messages ++ [message] })
          store.saved }

/-- The session that saving the draft makes. -/
def sessionOfDraft (store : Store) (stamp : Stamp) : SavedSession where
  id := stamp.id
  title := Title.ofMessages store.draft.key.tool store.draft.messages
    (store.saved.any (·.tool = store.draft.key.tool))
  tool := store.draft.key.tool
  axis := store.draft.key.axis
  createdAt := stamp.createdAt
  messages := store.draft.messages

/-- Saves the draft as the latest session, and leaves an empty draft for the same key. -/
def promote (store : Store) (stamp : Stamp) : Store :=
  { store with
    draft := .empty store.draft.key
    saved := store.sessionOfDraft stamp :: store.saved }

/-- Replaces the draft. -/
def resetDraft (store : Store) (key : SessionKey) (messages : List Message) : Store :=
  { store with draft := ⟨key, messages⟩ }

/-- Removes the session with an identifier; if it was selected, the draft is. -/
def delete (store : Store) (id : SessionId) : Store :=
  { store with
    saved := store.saved.filter (·.id ≠ id)
    selected := if store.selected = .saved id then .current else store.selected }

/-- Gives the session with an identifier another title. -/
def rename (store : Store) (id : SessionId) (title : String) : Store :=
  { store with
    saved := updateFirst id (fun s => { s with title := Title.ofWish title }) store.saved }

end Store
end Counsel
