import Counsel.Log.Note
import Counsel.Text.Utf8
import Counsel.Toml.Document
import Counsel.Toml.Quoted
import Counsel.Tool

/-!
The settings: where the dialogue service is and how long it may take, which tool a workspace opens
on, and how the program serves dialogues itself. They are kept in a TOML file. Some settings have no
TOML text: a number may be too large, and a path may be no text. They are refused before the file is
touched.
-/

namespace Counsel

/-- The settings of a workspace. -/
structure DialogueConfig where
  baseUrl : String
  /-- Seconds until a request is given up; 0 is never. -/
  requestTimeout : Nat
  defaultTool : Tool
  deriving DecidableEq, Repr

/-- A path of the file system: a text, or bytes that are not one. -/
inductive Path where
  | text (value : String)
  | bytes (value : List UInt8) (illFormed : Text.Utf8.decode? value = none)
  deriving DecidableEq, Repr

/-- The settings of the service. -/
structure ServerConfig where
  port : Nat
  /-- A folder of flows besides those every service knows. -/
  flowsDir : Option Path
  deriving DecidableEq, Repr

/-- The settings. -/
structure Config where
  dialogue : DialogueConfig
  server : ServerConfig
  deriving DecidableEq, Repr

open Json (Decoder Fields Value)

def DialogueConfig.default : DialogueConfig := ⟨"http://localhost:8000", 60, .default⟩

def ServerConfig.default : ServerConfig := ⟨8000, none⟩

namespace Path

/-- The text of a path, if it is one. -/
def text? : Path → Option String
  | .text value => some value
  | .bytes _ _ => none

/-- The decoder of a path, which a document gives as a text. -/
def decoder : Decoder Path := fun d => (Decoder.text d).map .text

end Path

namespace Config

/-- The settings of one who has set nothing. -/
def default : Config := ⟨.default, .default⟩

/-- How many ports there are. -/
def portCount : Nat := Nat.pow 2 16

/-! ### Reading -/

/-- The decoder of a workspace's settings; `unit` reads what a format writes for a mere name. -/
def dialogueDecoder (unit : Decoder Unit) : Decoder DialogueConfig :=
  Fields.decode <| (((Fields.none DialogueConfig.mk).and (.required "base_url" .text)).and
    (.withDefault "request_timeout_secs" 60 (.natBelow (Nat.pow 2 64)))).and
    (.withDefault "default_tool" .default (.named unit Tool.ofSlug?))

def serverDecoder : Decoder ServerConfig :=
  Fields.decode <| ((Fields.none ServerConfig.mk).and (.required "port" (.natBelow portCount))).and
    (.withDefault "flows_dir" none (.option Path.decoder))

/-- The decoder of settings in a format that writes a unit in its own way. -/
def decoderFor (unit : Decoder Unit) : Decoder Config :=
  Fields.decode <| ((Fields.none Config.mk).and
    (.withDefault "dialogue" .default (dialogueDecoder unit))).and
    (.withDefault "server" .default serverDecoder)

/-- The decoder of settings in JSON. -/
def decoder : Decoder Config := decoderFor .nothing

/-- TOML has nothing for a unit but a table or an array without entries. -/
def tomlUnit : Decoder Unit
  | .array [] _ => .ok ()
  | .object [] _ => .ok ()
  | _ => .error .misshapen

/-- The settings in a TOML text. -/
def ofToml? (s : String) : Option Config := Toml.decode? (decoderFor tomlUnit) s

/-! ### Writing -/

/-- The settings in JSON, which has nothing for a path that is no text. -/
def encode (c : Config) : Value :=
  .ofMembers [
    ("dialogue", .ofMembers [("base_url", .text c.dialogue.baseUrl),
      ("request_timeout_secs", .number (.integer c.dialogue.requestTimeout)),
      ("default_tool", c.dialogue.defaultTool.encode)]),
    ("server", .ofMembers (("port", .number (.integer c.server.port)) ::
      match c.server.flowsDir.bind Path.text? with
      | some dir => [("flows_dir", .text dir)]
      | none => []))]

/-- Why settings have no TOML text. -/
inductive Unwritable where
  /-- A number is beyond those of TOML. -/
  | number
  /-- A path is no text. -/
  | path
  deriving DecidableEq, Repr

/-- What is said of settings without a TOML text. -/
def Unwritable.message : Unwritable → String
  | .number => "out-of-range value for u64 type"
  | .path => "path contains invalid UTF-8 characters"

/-- The line of the folder of flows; nothing where there is none. -/
def flowsDirLine : Option Path → Except Unwritable String
  | none => .ok ""
  | some (.text dir) => .ok ("flows_dir = " ++ Toml.quote dir ++ "\n")
  | some (.bytes _ _) => .error .path

/-- The TOML text of settings. -/
def toToml (c : Config) : Except Unwritable String :=
  if Toml.fits c.dialogue.requestTimeout then do
    let flowsDir ← flowsDirLine c.server.flowsDir
    pure ("[dialogue]\nbase_url = " ++ Toml.quote c.dialogue.baseUrl ++
      "\nrequest_timeout_secs = " ++ toString c.dialogue.requestTimeout ++
      "\ndefault_tool = " ++ Toml.quote c.dialogue.defaultTool.slug ++
      "\n\n[server]\nport = " ++ toString c.server.port ++ "\n" ++ flowsDir)
  else .error .number

/-- The TOML text of settings, if they have one. -/
def toToml? (c : Config) : Option String := c.toToml.toOption

/-- What comes of writing a text to a file that holds `before`, or is not there: how that ends, and
what the file holds then. Where there is no text the file is not touched. -/
def writeOver (before : Option String) :
    Except Unwritable String → Except Unwritable Unit × Option String
  | .ok text => (.ok (), some text)
  | .error fault => (.error fault, before)

/-- Saves settings to a file. The text is there before the file is touched. -/
def save (c : Config) (before : Option String) : Except Unwritable Unit × Option String :=
  writeOver before c.toToml

/-! ### Where the settings come from -/

/-- The variable of the environment that names the dialogue service. -/
def baseUrlVariable : String := "DECISION_DIALOGUE_URL"

/-- The settings with the service that the environment names, if it names one. -/
def applyEnvironment (c : Config) (url : Option String) : Config :=
  match url.filter (Text.trim · ≠ "") with
  | some url =>
      { c with dialogue := { c.dialogue with
          baseUrl := Text.dropTrailing '/' (Text.trim url) } }
  | none => c

/-- The settings that a file holds; none if it is not there or holds something else. -/
def loadFrom (file : Option String) : Option Config := file.bind ofToml?

/-- The settings that a file, if there is one, and the environment give. -/
def load (file : Option String) (url : Option String) : Option Config :=
  match file with
  | some text => (ofToml? text).map (·.applyEnvironment url)
  | none => some (default.applyEnvironment url)

/-- What is noted while settings are loaded from a file at a path. -/
def loadNotes (path : String) (file : Option String) (url : Option String) : List Log.Note :=
  let note (text : String) : Log.Note := ⟨.debug, .settings, text⟩
  let fromFile := match file with
    | some text => if (ofToml? text).isSome then [note ("Loaded config from " ++ path)] else []
    | none => []
  if (load file url).isNone then []
  else fromFile ++ match url.filter (Text.trim · ≠ "") with
    | some url =>
        [note ("Using dialogue service URL from " ++ baseUrlVariable ++ ": " ++ url)]
    | none => []

/-- The address of the dialogue service as requests use it. -/
def clientBase (c : Config) : String := Text.dropTrailing '/' c.dialogue.baseUrl

end Config
end Counsel
