import Counsel.Config
import Counsel.Tool

/-!
The command line: options, positional arguments and subcommands, and what may be wrong with them.

Words are taken from left to right. The value of an option is looked at only when the next option
or argument starts or the line ends, so a word nobody knows is reported before a bad value in front
of it. What is missing or does not go together is looked for last.
-/

namespace Counsel.Command

/-- Why a command line is not carried out. -/
inductive UsageError where
  | displayHelp
  | displayVersion
  /-- Nothing is asked for at all. -/
  | nothingGiven
  | missingArgument
  | missingSubcommand
  | unknownArgument
  | invalidSubcommand
  /-- A value is missing or empty. -/
  | invalidValue
  /-- A value is none of its kind. -/
  | badValue
  /-- An option is given twice, or together with one that excludes it. -/
  | conflict
  /-- A flag is given a value. -/
  | tooManyValues
  deriving DecidableEq, Repr

def UsageError.name : UsageError → String
  | .displayHelp => "DisplayHelp"
  | .displayVersion => "DisplayVersion"
  | .nothingGiven => "DisplayHelpOnMissingArgumentOrSubcommand"
  | .missingArgument => "MissingRequiredArgument"
  | .missingSubcommand => "MissingSubcommand"
  | .unknownArgument => "UnknownArgument"
  | .invalidSubcommand => "InvalidSubcommand"
  | .invalidValue => "InvalidValue"
  | .badValue => "ValueValidation"
  | .conflict => "ArgumentConflict"
  | .tooManyValues => "TooManyValues"

/-! ### Values -/

/-- The integer a text denotes: digits, perhaps with a sign. -/
def integer? (s : String) : Option Int :=
  let (negative, digits) := match s.toList with
    | '+' :: rest => (false, rest)
    | '-' :: rest => (true, rest)
    | s => (false, s)
  if digits.isEmpty ∨ !digits.all Char.isDigit then none
  else
    let n : Int := Decimal.digitsValue 0 digits
    some (if negative then -n else n)

/-- The port a text denotes. -/
def port? (s : String) : Option Nat :=
  (integer? s).bind fun n => if 0 ≤ n ∧ n < Config.portCount then some n.toNat else none

/-- The kinds of values. -/
inductive ValueKind where
  | text
  | path
  | port
  | tool
  deriving DecidableEq, Repr

/-- Whether a text is a value of a kind. -/
def ValueKind.check (kind : ValueKind) (s : String) : Except UsageError Unit :=
  match kind with
  | .text => .ok ()
  | .path => if s = "" then .error .invalidValue else .ok ()
  | .port => if (port? s).isSome then .ok () else .error .badValue
  | .tool => if (Tool.parse? s).isSome then .ok () else .error .badValue

/-! ### Options -/

/-- An option that takes a value. -/
structure Flag where
  long : String
  short : Option Char
  kind : ValueKind
  deriving DecidableEq, Repr

/-- What a command takes: options, how many positional arguments, and subcommands. -/
structure Grammar where
  flags : List Flag
  positionals : Nat
  subcommands : List String
  hasVersion : Bool

/-- How far a command line has been read. -/
structure Progress where
  /-- The options read, each with its value. -/
  given : List (String × String)
  /-- An option whose value is not looked at yet, or still to come. -/
  pending : Option (Flag × Option String)
  arguments : List String
  /-- Whether only positional arguments can follow. -/
  trailing : Bool

namespace Progress

def start : Progress := ⟨[], none, [], false⟩

/-- Adds an option with its value. -/
def add (p : Progress) (flag : Flag) (value : String) : Except UsageError Progress :=
  if (p.given.lookup flag.long).isSome then .error .conflict
  else (flag.kind.check value).map fun _ =>
    { p with given := p.given ++ [(flag.long, value)], pending := none }

/-- Settles the option in progress. -/
def settle (p : Progress) : Except UsageError Progress :=
  match p.pending with
  | none => .ok p
  | some (_, none) => .error .invalidValue
  | some (flag, some value) => p.add flag value

/-- Whether the next word is the value of an option. -/
def awaitsValue (p : Progress) : Bool :=
  match p.pending with
  | some (_, none) => true
  | _ => false

/-- An option begins, perhaps with its value attached. -/
def begin (p : Progress) (flag : Flag) (value : Option String) : Except UsageError Progress := do
  let p ← p.settle
  match value with
  | some value => p.add flag value
  | none => pure { p with pending := some (flag, none) }

end Progress

/-- The name and the attached value of a word such as `--port=80`. -/
def splitLong (word : List Char) : String × Option String :=
  match Text.splitOnce ['='] word with
  | some (name, value) => (.ofList name, some (.ofList value))
  | none => (.ofList word, none)

/-- The flag that shows help or the version settles what is in progress first. -/
def stopWith (p : Progress) (value : Option String) (e : UsageError) :
    Except UsageError Progress :=
  if value.isSome then .error .tooManyValues
  else match p.settle with
    | .ok _ => .error e
    | .error e => .error e

/-- Takes a word that begins with two hyphens. -/
def takeLong (g : Grammar) (p : Progress) (word : List Char) : Except UsageError Progress :=
  let (name, value) := splitLong word
  match g.flags.find? (·.long = name) with
  | some flag => p.begin flag value
  | none =>
      if name = "help" then stopWith p value .displayHelp
      else if name = "version" ∧ g.hasVersion then stopWith p value .displayVersion
      else .error .unknownArgument

/-- Takes a word that begins with one hyphen. -/
def takeShort (g : Grammar) (p : Progress) (c : Char) (rest : List Char) :
    Except UsageError Progress :=
  match g.flags.find? (·.short = some c) with
  | some flag =>
      match rest with
      | [] => p.begin flag none
      | '=' :: value => p.begin flag (some (.ofList value))
      | value => p.begin flag (some (.ofList value))
  | none =>
      if c = 'h' then stopWith p none .displayHelp
      else if c = 'V' ∧ g.hasVersion then stopWith p none .displayVersion
      else .error .unknownArgument

/-- Takes a word that is a positional argument. -/
def takeArgument (g : Grammar) (p : Progress) (word : String) : Except UsageError Progress :=
  if p.arguments.length < g.positionals then do
    let p ← p.settle
    pure { p with arguments := p.arguments ++ [word] }
  else if g.subcommands.isEmpty ∨ (p.trailing ∧ g.subcommands.contains word) then
    .error .unknownArgument
  else .error .invalidSubcommand

/-- Takes a word that is no subcommand. -/
def takeWord (g : Grammar) (p : Progress) (word : String) : Except UsageError Progress :=
  if p.trailing then takeArgument g p word
  else match word.toList with
    | ['-', '-'] => .ok { p with trailing := true }
    | '-' :: '-' :: rest => takeLong g p rest
    | '-' :: c :: rest => takeShort g p c rest
    | _ =>
        match p.pending with
        | some (flag, none) => .ok { p with pending := some (flag, some word) }
        | _ => takeArgument g p word

/-- Reads words up to a subcommand, which comes back with the words after it. -/
def readWords (g : Grammar) (p : Progress) :
    List String → Except UsageError (Progress × Option (String × List String))
  | [] => .ok (p, none)
  | word :: rest =>
      if !p.trailing && !p.awaitsValue && g.subcommands.contains word then
        .ok (p, some (word, rest))
      else do readWords g (← takeWord g p word) rest

/-! ### The commands -/

/-- What the program is asked to do. -/
inductive Subcommand where
  | serve (port : Option Nat) (flowsDir : Option String)
  | chat (tool : Option Tool) (axis query logfile : Option String)
  | tools
  | flows
  | flow (id : String)
  | ask (message : String) (tool : Option Tool) (axis : Option String)
  | config
  deriving DecidableEq, Repr

/-- A command line that can be carried out. -/
structure Invocation where
  url : Option String
  subcommand : Subcommand
  deriving DecidableEq, Repr

def urlFlag : Flag := ⟨"url", none, .text⟩

def toolFlag : Flag := ⟨"tool", some 't', .tool⟩

def axisFlag : Flag := ⟨"axis", some 'a', .text⟩

/-- The names of the subcommands. -/
def subcommandNames : List String :=
  ["serve", "chat", "tools", "flows", "flow", "ask", "config", "help"]

/-- What the program itself takes. -/
def rootGrammar : Grammar := ⟨[urlFlag], 0, subcommandNames, true⟩

/-- What a subcommand takes. -/
def grammarOf (name : String) : Grammar :=
  let flags : List Flag := match name with
    | "serve" => [⟨"port", some 'p', .port⟩, ⟨"flows-dir", none, .path⟩]
    | "chat" => [toolFlag, axisFlag, ⟨"query", none, .text⟩, ⟨"logfile", none, .path⟩]
    | "ask" => [toolFlag, axisFlag]
    | _ => []
  ⟨urlFlag :: flags, if name = "flow" ∨ name = "ask" then 1 else 0, [], false⟩

/-- The subcommand that was read, if nothing is missing and all goes together. -/
def build (name : String) (p : Progress) : Except UsageError Subcommand :=
  let value (long : String) := p.given.lookup long
  let tool := (value "tool").bind Tool.parse?
  match name with
  | "serve" => .ok (.serve ((value "port").bind port?) (value "flows-dir"))
  | "chat" =>
      if (value "query").isSome ∧ ((value "tool").isSome ∨ (value "axis").isSome) then
        .error .conflict
      else .ok (.chat tool (value "axis") (value "query") (value "logfile"))
  | "tools" => .ok .tools
  | "flows" => .ok .flows
  | "flow" => match p.arguments with
    | id :: _ => .ok (.flow id)
    | [] => .error .missingArgument
  | "ask" => match p.arguments with
    | message :: _ => .ok (.ask message tool (value "axis"))
    | [] => .error .missingArgument
  | _ => .ok .config

/-- The command `help` with the words after it. -/
def readHelp : List String → UsageError
  | [] => .displayHelp
  | [name] => if subcommandNames.contains name then .displayHelp else .invalidSubcommand
  | _ => .invalidSubcommand

/-- The invocation that a command line asks for. -/
def parse (args : List String) : Except UsageError Invocation := do
  let (root, found) ← readWords rootGrammar .start args
  match found with
  | some (name, rest) =>
      if name = "help" then .error (readHelp rest)
      else do
        let (p, _) ← readWords (grammarOf name) .start rest
        let p ← p.settle
        let subcommand ← build name p
        let root ← root.settle
        pure ⟨(p.given.lookup "url").or (root.given.lookup "url"), subcommand⟩
  | none => do
      let root ← root.settle
      if root.given.isEmpty then .error .nothingGiven else .error .missingSubcommand

end Counsel.Command
