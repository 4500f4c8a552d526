import Counsel.Flow.Step
import Counsel.Log.Note

/-!
The flows a dialogue service knows, by their names.
-/

namespace Counsel

/-- Flows by their names. -/
structure Registry where
  flows : Dict Flow
  deriving DecidableEq, Repr

namespace Registry

def empty : Registry := ⟨.empty⟩

/-- Adds a flow in the place of one of its name. -/
def insert (r : Registry) (f : Flow) : Registry := ⟨r.flows.insert f.id f⟩

def get? (r : Registry) (id : String) : Option Flow := r.flows.get? id

/-- The names of the flows in order. -/
def ids (r : Registry) : List String := r.flows.keys

/-- The registry of some flows, a later one in the place of an earlier one of its name. -/
def ofFlows (flows : List Flow) : Registry := flows.foldl insert empty

/-- The next step of a flow. Errors are steps of their own, so there always is one. -/
def advance (r : Registry) (request : FlowRequest) : FlowStep :=
  match r.get? request.flowId with
  | some f => f.advance (request.nodeId.getD f.start) request.answers
  | none => .error (FlowError.unknownFlow request.flowId).message

/-- What is noted of an advance that failed. -/
def advanceNotes (r : Registry) (request : FlowRequest) : List Log.Note :=
  match r.get? request.flowId with
  | some f =>
      let node := request.nodeId.getD f.start
      match f.next node request.answers with
      | .ok _ => []
      | .error e =>
          [⟨.warn, .flow, "Flow '" ++ f.id ++ "' failed at '" ++ node ++ "': " ++ e.message⟩]
  | none => []

end Registry
end Counsel
