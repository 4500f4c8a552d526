import Counsel.Session.Store

/-!
What can be done to a store, as values, with what comes back: whether the conversation that an
operation is about was there, the identifier of the session that was made, or what is on view.
-/

namespace Counsel.Store

/-- What can be done to a store. -/
inductive Operation where
  | append (target : Selection) (message : Message)
  | promote (stamp : Stamp)
  | resetDraft (key : SessionKey) (messages : List Message)
  | select (selection : Selection)
  | delete (id : SessionId)
  | rename (id : SessionId) (title : String)
  deriving DecidableEq, Repr

/-- What comes back from an operation. -/
inductive Answer where
  | done
  /-- Whether what the operation is about was there. -/
  | found (there : Bool)
  | made (id : SessionId)
  | viewed (selection : Selection)
  deriving DecidableEq, Repr

/-- Does something to a store. A deletion tells from the number of sessions whether one is gone. -/
def perform (store : Store) : Operation → Store × Answer
  | .append target message => (store.append target message, .found (store.holds target))
  | .promote stamp => (store.promote stamp, .made stamp.id)
  | .resetDraft key messages => (store.resetDraft key messages, .done)
  | .select selection =>
      let next := store.select selection
      (next, .viewed next.selection)
  | .delete id =>
      let next := store.delete id
      (next, .found (next.saved.length ≠ store.saved.length))
  | .rename id title => (store.rename id title, .found (store.get? id).isSome)

/-- The store after an operation. -/
def after (store : Store) (op : Operation) : Store := (store.perform op).1

end Counsel.Store
