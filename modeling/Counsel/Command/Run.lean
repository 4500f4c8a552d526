import Counsel.Client
import Counsel.Command.Args
import Counsel.Config
import Counsel.Dialogue.Actor
import Counsel.Service.Router

/-!
Carrying out a command line where no dialogue service can be reached: what is printed, and how the
program ends. Opening the chat and listening for requests is left to whoever owns a terminal and a
network.
-/

namespace Counsel.Command

/-- How a command ended: what it printed, and what went wrong. -/
structure Ending where
  printed : String
  error : Option String
  deriving DecidableEq, Repr

/-- The status with which the program ends. -/
def Ending.code (e : Ending) : Nat := if e.error.isSome then 1 else 0

/-- What is to be carried out, with the settings that count for it. -/
inductive Job where
  | serve (config : ServerConfig)
  | chat (config : Config) (navigation : Navigation)
  | tools
  | flows (base : String)
  | flow (base id : String)
  | ask (base : String) (navigation : Navigation) (message : String)
  | config (config : Config)

/-- The settings with the service that the command line names. -/
def withUrl (config : Config) (url : Option String) : Config :=
  match url with
  | some url =>
      { config with dialogue := { config.dialogue with baseUrl := Text.dropTrailing '/' url } }
  | none => config

/-- Where the chat starts. -/
def chatNavigation (default : Tool) (tool : Option Tool) (axis query : Option String) :
    Navigation :=
  match query with
  | some query => .ofQuery query default
  | none => .of (tool.getD default) axis

/-- The settings of a service with what the command line says of it. -/
def serverWith (config : ServerConfig) (port : Option Nat) (flowsDir : Option String) :
    ServerConfig :=
  ⟨port.getD config.port, (flowsDir.map Path.text).or config.flowsDir⟩

/-- The job of an invocation. -/
def jobOf (config : Config) (i : Invocation) : Job :=
  let config := withUrl config i.url
  let base := config.clientBase
  let default := config.dialogue.defaultTool
  match i.subcommand with
  | .serve port flowsDir => .serve (serverWith config.server port flowsDir)
  | .chat tool axis query _ => .chat config (chatNavigation default tool axis query)
  | .tools => .tools
  | .flows => .flows base
  | .flow id => .flow base id
  | .ask message tool axis => .ask base (.of (tool.getD default) axis) message
  | .config => .config config

/-- The line of a tool in the list of tools. -/
def toolLine (tool : Tool) : String :=
  "  " ++ Text.padRight 22 tool.slug ++ " " ++ Text.padRight 22 tool.label ++ " flow: " ++
    tool.profile.flowId.getD "-" ++ "\n"

/-- The list of tools by their stages. -/
def toolList : String :=
  .join (Stage.all.map fun stage =>
    stage.label ++ "\n" ++ .join ((Tool.ofStage stage).map toolLine))

/-- Who says a message, in a printed conversation. -/
def speaker : Role → String
  | .user => "you"
  | .assistant => "assistant"
  | .system => "system"

/-- A message in a printed conversation. -/
def messageLine (m : Message) : String := Text.padLeft 9 (speaker m.role) ++ ": " ++ m.text ++ "\n"

/-- Every request that a step sends fails. -/
def failing (base : String) (s : Dialogue.Step) : Dialogue.Step :=
  match s.dispatched with
  | some outbound => s.actor.finish outbound.ticket (Client.failedExchange base)
  | none => s

/-- Nothing is ever saved here, so no stamp is ever used. -/
def unusedStamp : Stamp := ⟨⟨0⟩, ⟨0, 0⟩⟩

/-- One message and the conversation that comes of it. -/
def askEnding (base : String) (navigation : Navigation) (message : String) : Ending :=
  let opened := (failing base (Dialogue.Actor.start navigation)).actor
  let typed := (opened.handle (.setInput message) unusedStamp).actor
  let sent := typed.handle .submit unusedStamp
  if sent.dispatched.isNone then ⟨"", some "Message was not sent"⟩
  else
    let c := (failing base sent).actor.controller
    ⟨.join (c.store.activeMessages.map messageLine), c.error⟩

/-- How a job ends that needs neither terminal nor network; the others have no ending here. -/
def Job.ending? : Job → Option Ending
  | .tools => some ⟨toolList, none⟩
  | .config settings => some <| match settings.toToml with
    | .ok text => ⟨text, none⟩
    | .error fault => ⟨"", some fault.message⟩
  | .flows base => some ⟨"", some ("Dialogue service at " ++ base ++ " unavailable: " ++
      Client.unreachable (base ++ "/health"))⟩
  | .flow base _ => some ⟨"", some (Client.unreachable (base ++ "/flow/next"))⟩
  | .ask base navigation message => some (askEnding base navigation message)
  | .serve _ => none
  | .chat _ _ => none

/-- What is said of a folder that is not there. -/
def missingFolder : String := "No such file or directory (os error 2)"

/-- What the program calls itself. -/
def versionText : String := "decision-maker 0.1.0\n"

/-- What is noted as the chat opens against a service that does not answer. -/
def chatNotes (config : Config) (navigation : Navigation) : List Log.Note :=
  [⟨.info, .command, "Opening chat on ?" ++ navigation.query ++ " against " ++
      config.dialogue.baseUrl⟩,
    ⟨.warn, .command, "Dialogue service at " ++ config.clientBase ++
      " is not responding; run 'decision-maker serve' or set --url"⟩]

end Counsel.Command
