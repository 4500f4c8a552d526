import Counsel.Flow.Registry

/-!
Walking through a flow: a first request without a node and without answers, and after every step
the request that follows from it. The reply to a question is kept under the name that the question
awaits, and its node is asked again; a jump leads to its target; an end or an error ends the walk.
-/

namespace Counsel

/-- The request for the first step of a flow. -/
def FlowRequest.first (flowId : String) : FlowRequest := ⟨flowId, none, .empty⟩

/-- The request for a node again, with the reply to what it asked. -/
def FlowRequest.replied (q : FlowRequest) (nodeId awaiting : String) (reply : Json.Value) :
    FlowRequest :=
  { q with nodeId := some nodeId, answers := q.answers.insert awaiting reply }

/-- The request for the node that a jump leads to. -/
def FlowRequest.movedTo (q : FlowRequest) (target : String) : FlowRequest :=
  { q with nodeId := some target }

/-- One round of a walk: a request, the step that comes back, and the reply at hand in case that is
a question. -/
structure Round where
  request : FlowRequest
  step : FlowStep
  reply : Json.Value

/-- The request that follows from a round. -/
def Round.next (x : Round) : Option FlowRequest :=
  match x.step with
  | .ask nodeId _ awaiting => some (x.request.replied nodeId awaiting x.reply)
  | .goto target => some (x.request.movedTo target)
  | .finish .. => none
  | .error _ => none

namespace Registry

/-- The round that a request begins. -/
def round (r : Registry) (q : FlowRequest) (reply : Json.Value) : Round := ⟨q, r.advance q, reply⟩

/-- The rounds of a walk from a request on, until the flow ends or no reply is at hand. There is a
reply for every round; a jump leaves it unused. -/
def walk (r : Registry) (q : FlowRequest) : List Json.Value → List Round
  | [] => []
  | reply :: replies =>
      r.round q reply :: match (r.round q reply).next with
        | some next => r.walk next replies
        | none => []

end Registry
end Counsel
