import Counsel.Json.Shape
import Counsel.Text.Blank

/-!
Flows: scripted questions. A flow is a graph of nodes; at a node something is asked, a branch is
taken, or the flow ends with a recommendation. The answers are kept by whoever walks the flow.
-/

namespace Counsel

/-- The answers given so far, by the name of what was asked. -/
abbrev Answers := Dict Json.Value

/-- A question. -/
structure Ask where
  id : String
  kind : String
  prompt : String
  helperText : Option String
  deriving DecidableEq, Repr

/-- Where to go from a node whose questions are answered: with `when` if its criterion is met, with
`otherwise` if not. -/
structure Rule where
  when : Option String
  otherwise : Bool
  goto : String
  deriving DecidableEq, Repr

/-- A node of a flow. -/
inductive Node where
  /-- Several questions, and a criterion on their answers. -/
  | composite (asks : List Ask) (passIf : String) (rules : List Rule) (scaleLabels : Dict String)
  | yesno (prompt onYes onNo : String)
  | collect (prompt next : String)
  | finish (recommendation : Option String)
  deriving DecidableEq, Repr

/-- A flow: its nodes by name, and the one it starts with. -/
structure Flow where
  id : String
  start : String
  nodes : Dict Node
  deriving DecidableEq, Repr

/-- The next thing that happens in a flow. -/
inductive FlowStep where
  | ask (nodeId : String) (ask : Ask) (awaiting : String)
  | goto (target : String)
  | finish (ended : Bool) (recommendation : String)
  | error (message : String)
  deriving DecidableEq, Repr

/-- A request for the next step of a flow: at its start, or at a node. -/
structure FlowRequest where
  flowId : String
  nodeId : Option String
  answers : Answers

/-- Why a flow has no next step. -/
inductive FlowError where
  | unknownFlow (id : String)
  | unknownNode (flow node : String)
  | unsupportedExpression (text : String)
  /-- The answer is no number; `value` is its JSON text. -/
  | notANumber (key value : String)
  | unhandled (node : String)
  deriving DecidableEq, Repr

/-- What is said of an error in a flow. -/
def FlowError.message : FlowError → String
  | .unknownFlow id => "unknown flow_id: " ++ id
  | .unknownNode flow node => "unknown node '" ++ node ++ "' in flow '" ++ flow ++ "'"
  | .unsupportedExpression text => "unsupported expression: " ++ text
  | .notANumber key value => "answer '" ++ key ++ "' is not a number: " ++ value
  | .unhandled node => "node '" ++ node ++ "' has no rule for its answers"

open Json (Decoder Fields Value)

/-- A member that is left out where there is nothing to say. -/
def optionalMember (name : String) : Option String → List (String × Value)
  | some s => [(name, .text s)]
  | none => []

/-- A text or nothing. -/
def nullableText : Option String → Value
  | some s => .text s
  | none => .null

namespace Ask

def decoder : Decoder Ask :=
  Fields.decode <| ((((Fields.none Ask.mk).and (.required "id" .text)).and
    (.required "type" .text)).and (.required "prompt" .text)).and
    (.withDefault "helper_text" none (.option .text))

def encode (a : Ask) : Value :=
  .ofMembers ([("id", .text a.id), ("type", .text a.kind), ("prompt", .text a.prompt)] ++
    optionalMember "helper_text" a.helperText)

end Ask

namespace Rule

def decoder : Decoder Rule :=
  Fields.decode <| (((Fields.none Rule.mk).and (.withDefault "when" none (.option .text))).and
    (.withDefault "else" false .bool)).and (.required "goto" .text)

def encode (r : Rule) : Value :=
  .ofMembers ([("else", .bool r.otherwise), ("goto", .text r.goto)] ++
    optionalMember "when" r.when)

end Rule

namespace Node

/-- The fields of a node of a kind. -/
def fields? (kind : String) : Option (Fields Node) :=
  match kind with
  | "composite" =>
      let compute := Fields.decode ((Fields.none id).and (.required "pass_if" .text))
      some <| ((((Fields.none composite).and (.required "asks" (.list Ask.decoder))).and
        (.required "compute" compute)).and (.required "on_answer" (.list Rule.decoder))).and
        (.withDefault "scale_labels" .empty (.dict .text))
  | "yesno" =>
      some <| (((Fields.none yesno).and (.required "prompt" .text)).and
        (.required "on_yes" .text)).and (.required "on_no" .text)
  | "collect" =>
      some <| ((Fields.none collect).and (.required "prompt" .text)).and (.required "next" .text)
  | "end" => some <| (Fields.none finish).and (.withDefault "recommendation" none (.option .text))
  | _ => none

/-- The node of a kind with these fields. -/
def ofParts (kind : String) (rest : Json.Doc) : Except Json.Fault Node :=
  match fields? kind with
  | some fields => fields.decode rest
  | none => .error .misshapen

/-- Reads a node from an object with its `kind` among the members, or from an array with its kind
first. -/
def decoder : Decoder Node := .whole 2 fun d =>
  match d with
  | .array (.text (some kind) :: rest) closed => ofParts kind (.array rest closed)
  | .object members closed =>
      match members.filter (·.1 = some "kind") with
      | [(_, .text (some kind))] =>
          ofParts kind (.object (members.filter (·.1 ≠ some "kind")) closed)
      | _ => .error .misshapen
  | _ => .error .misshapen

/-- The name of a node's kind. -/
def kind : Node → String
  | .composite .. => "composite"
  | .yesno .. => "yesno"
  | .collect .. => "collect"
  | .finish _ => "end"

/-- The members of a node besides its kind. -/
def members : Node → List (String × Value)
  | .composite asks passIf rules labels =>
      [("asks", .array (asks.map Ask.encode)),
        ("compute", .ofMembers [("pass_if", .text passIf)]),
        ("on_answer", .array (rules.map Rule.encode)),
        ("scale_labels", .object (labels.entries.map fun e => (e.1, .text e.2)))]
  | .yesno prompt onYes onNo =>
      [("prompt", .text prompt), ("on_yes", .text onYes), ("on_no", .text onNo)]
  | .collect prompt next => [("prompt", .text prompt), ("next", .text next)]
  | .finish recommendation => [("recommendation", nullableText recommendation)]

def encode (n : Node) : Value := .ofMembers (("kind", .text n.kind) :: n.members)

end Node

namespace Flow

def decoder : Decoder Flow :=
  Fields.decode <| (((Fields.none Flow.mk).and (.withDefault "id" "" .text)).and
    (.required "start" .text)).and (.required "nodes" (.dict Node.decoder))

def encode (f : Flow) : Value :=
  .ofMembers [("id", .text f.id), ("start", .text f.start),
    ("nodes", .object (f.nodes.entries.map fun e => (e.1, e.2.encode)))]

end Flow

namespace FlowStep

/-- The shapes of a step, each of which has members of its own. -/
def shapes : List (Fields FlowStep) :=
  [(((Fields.none ask).and (.required "node_id" .text)).and (.required "ask" Ask.decoder)).and
      (.required "awaiting" .text),
    (Fields.none goto).and (.required "goto" .text),
    ((Fields.none finish).and (.required "end" .bool)).and (.required "recommendation" .text),
    (Fields.none error).and (.required "error" .text)]

/-- The first shape that fits an object. -/
def firstFitting (d : Json.Doc) : List (Fields FlowStep) → Except Json.Fault FlowStep
  | [] => .error .misshapen
  | fields :: rest =>
      match fields.fromObject d with
      | .ok step => .ok step
      | .error _ => firstFitting d rest

/-- Reads a step from an object, as the first shape that fits. -/
def decoder : Decoder FlowStep := .whole 0 fun d => firstFitting d shapes

def encode : FlowStep → Value
  | .ask nodeId question awaiting =>
      .ofMembers [("node_id", .text nodeId), ("ask", question.encode), ("awaiting", .text awaiting)]
  | .goto target => .ofMembers [("goto", .text target)]
  | .finish ended recommendation =>
      .ofMembers [("end", .bool ended), ("recommendation", .text recommendation)]
  | .error message => .ofMembers [("error", .text message)]

end FlowStep

namespace FlowRequest

def decoder : Decoder FlowRequest :=
  Fields.decode <| (((Fields.none FlowRequest.mk).and (.required "flow_id" .text)).and
    (.withDefault "node_id" none (.option .text))).and
    (.withDefault "answers" .empty (.dict (.value 2)))

def encode (r : FlowRequest) : Value :=
  .ofMembers [("flow_id", .text r.flowId), ("node_id", nullableText r.nodeId),
    ("answers", .ofDict r.answers)]

end FlowRequest
end Counsel
