import Counsel.Flow.Folder
import Counsel.Service.Respond
import Counsel.Config
import Counsel.Text.Shown

/-!
The service over HTTP: three routes that speak JSON, and every origin is welcome.

A request is refused for its path first, then for its method, then for the kind of its body, and
last for what the body holds: text that is not JSON, or JSON of another shape.
-/

namespace Counsel.Service

/-- A request as it comes over the net; `headers` are names in any case with their values. -/
structure HttpRequest where
  method : String
  path : String
  headers : List (String × String)
  body : String
  deriving DecidableEq, Repr

/-- What a response carries. -/
inductive Body where
  | json (value : Json.Value)
  | text (value : String)

/-- A response: its status, those of its headers that differ between responses, and its body. -/
structure HttpResponse where
  status : Nat
  contentType : Option String
  allow : Option String
  /-- Whether it tells a browser beforehand which methods and headers are welcome. -/
  preflight : Bool
  body : Body

/-- The health of the service: whether it is well, and the flows it knows. -/
structure Health where
  ok : Bool
  flows : List String
  deriving DecidableEq, Repr

namespace Health

def decoder : Json.Decoder Health :=
  Json.Fields.decode <| ((Json.Fields.none Health.mk).and (.required "ok" .bool)).and
    (.required "flows" (.list .text))

def encode (h : Health) : Json.Value :=
  .ofMembers [("ok", .bool h.ok), ("flows", .array (h.flows.map .text))]

end Health

namespace HttpResponse

/-- A response with a status and nothing else. -/
def bare (status : Nat) : HttpResponse := ⟨status, none, none, false, .text ""⟩

def ofJson (value : Json.Value) : HttpResponse :=
  ⟨200, some "application/json", none, false, .json value⟩

/-- A refusal with its reason. -/
def refusal (status : Nat) (reason : String) : HttpResponse :=
  ⟨status, some "text/plain; charset=utf-8", none, false, .text reason⟩

/-- The refusal of a method where others are allowed. -/
def methodNotAllowed (allow : String) : HttpResponse :=
  { bare 405 with allow := some allow }

end HttpResponse

/-! ### Kinds of bodies -/

/-- The value of a header. -/
def HttpRequest.header? (r : HttpRequest) (name : String) : Option String :=
  (r.headers.find? fun h => Text.lowerAscii h.1 = name).map (·.2)

/-- Whether a character may stand in a name of a kind of content. -/
def isToken (c : Char) : Bool :=
  c.isAlphanum || "!#$%&'*+-.^_`|~".toList.contains c

/-- Whether a parameter of a kind of content is a name with a value. -/
def isParameter (s : List Char) : Bool :=
  match Text.splitOnce ['='] (s.dropWhile (· = ' ')) with
  | some (name, value) =>
      !name.isEmpty && name.all isToken && !value.isEmpty &&
        (value.all isToken || (1 < value.length && value.head? = some '"' &&
          value.getLast? = some '"'))
  | none => false

/-- The part of a name before its last plus sign, and what follows that sign. -/
def splitSuffix (s : List Char) : List Char × Option (List Char) :=
  let suffix := (s.reverse.takeWhile (· ≠ '+')).reverse
  let stem := s.take (s.length - suffix.length - 1)
  if suffix.length = s.length ∨ stem.isEmpty then (s, none) else (stem, some suffix)

/-- Whether a kind of content is JSON: `application/json`, or `application/` with a name that ends
in `+json`, and any parameters. -/
def isJsonKind (kind : String) : Bool :=
  let pieces := Text.splitAtMark ';' kind.toList
  let essence := (pieces.head?.getD []).map Char.toLower
  let parameters := pieces.drop 1
  match Text.splitOnce ['/'] essence with
  | some (top, sub) =>
      let (stem, suffix) := splitSuffix sub
      top = "application".toList && sub.all isToken &&
        (stem = "json".toList || suffix = some "json".toList) &&
        (parameters.all isParameter || parameters = [[]])
  | none => false

/-! ### Routes -/

/-- The response to a body by what it decodes to. -/
def withBody {α : Type} (r : HttpRequest) (decode : Json.Decoder α) (answer : α → Json.Value) :
    HttpResponse :=
  if ((r.header? "content-type").map isJsonKind).getD false then
    match decode.parseStart r.body with
    | .ok a => .ofJson (answer a)
    | .error .malformed => .refusal 400 "Failed to parse the request body as JSON"
    | .error .misshapen => .refusal 422 "Failed to deserialize the JSON body into the target type"
  else .refusal 415 "Expected request with \u0060Content-Type: application/json\u0060"

/-- The path of a request without its query. -/
def HttpRequest.route (r : HttpRequest) : List Char := r.path.toList.takeWhile (· ≠ '?')

/-- The health of a service with these flows. -/
def health (flows : Registry) : Health := ⟨true, flows.ids⟩

/-- The response to a request. -/
def handle (flows : Registry) (r : HttpRequest) : HttpResponse :=
  if r.method = "OPTIONS" then { HttpResponse.bare 200 with preflight := true }
  else if r.route = "/health".toList then
    if r.method = "GET" then .ofJson (health flows).encode
    else if r.method = "HEAD" then { HttpResponse.ofJson .null with body := .text "" }
    else .methodNotAllowed "GET,HEAD"
  else if r.route = "/dialogue".toList then
    if r.method = "POST" then
      withBody r Dialogue.Request.decoder fun request => (respond flows request).encode
    else .methodNotAllowed "POST"
  else if r.route = "/flow/next".toList then
    if r.method = "POST" then
      withBody r FlowRequest.decoder fun request => (flows.advance request).encode
    else .methodNotAllowed "POST"
  else .bare 404

/-- What is noted of a request for the next step of a flow. -/
def flowNotes (flows : Registry) (request : FlowRequest) : List Log.Note :=
  ⟨.debug, .serviceFlows, "Advancing flow " ++ request.flowId ++ " at " ++
    Text.shownOption request.nodeId ++ " with " ++ toString request.answers.size ++ " answers"⟩ ::
    flows.advanceNotes request

/-- What is noted of a request. -/
def handleNotes (flows : Registry) (r : HttpRequest) : List Log.Note :=
  let accepted := r.method = "POST" && ((r.header? "content-type").map isJsonKind).getD false
  if accepted && r.route = "/dialogue".toList then
    match Dialogue.Request.decoder.parseStart r.body with
    | .ok request => respondNotes request
    | .error _ => []
  else if accepted && r.route = "/flow/next".toList then
    match FlowRequest.decoder.parseStart r.body with
    | .ok request => flowNotes flows request
    | .error _ => []
  else []

/-! ### Starting -/

/-- The flows of a service: those every service knows, and those of a folder at a path, as it is
listed. -/
def flowsFor (folder : Option (String × Listing)) : Except LoadError Registry :=
  match folder with
  | none => .ok Builtin.registry
  | some (path, listing) =>
      match Builtin.registry.load path listing with
      | (flows, .ok _) => .ok flows
      | (_, .error e) => .error e

/-- What is noted while the flows of a service are loaded. -/
def flowsNotes (folder : Option (String × Listing)) : List Log.Note :=
  match folder with
  | none => []
  | some (path, listing) =>
      Registry.loadFolderNotes path listing.entries ++
        match (Builtin.registry.load path listing).2 with
        | .ok n => [⟨.info, .serviceSettings,
            "Loaded " ++ toString n ++ " flows from " ++ path⟩]
        | .error _ => []

/-- What is noted once a service listens at an address. -/
def listeningNotes (address : String) (flows : Registry) : List Log.Note :=
  [⟨.info, .serviceRoutes, "Dialogue server listening on http://" ++ address ++ " (" ++
    toString flows.ids.length ++ " flows)"⟩]

end Counsel.Service
