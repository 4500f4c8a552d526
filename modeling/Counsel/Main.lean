import Counsel.Command.Run

/-!
The program: it reads the settings and the command line, carries out what needs neither a terminal
of its own nor a network, and prints what comes of it.
-/

namespace Counsel

/-- Where the settings of the user are, if the environment tells. -/
def settingsPath? : IO (Option String) := do
  let inFolder (folder : String) : String := folder ++ "/decision-maker/config.toml"
  match ← IO.getEnv "XDG_CONFIG_HOME", ← IO.getEnv "HOME" with
  | some folder, _ => return some (inFolder folder)
  | none, some home => return some (inFolder (home ++ "/.config"))
  | none, none => return none

/-- The text of the settings of the user, if there are any. -/
def settingsText? : IO (Option String) := do
  match ← settingsPath? with
  | some path =>
      try return some (← IO.FS.readFile path)
      catch _ => return none
  | none => return none

/-- Prints how a job ended; gives the status of the program. -/
def report (e : Command.Ending) : IO UInt32 := do
  IO.print e.printed
  if let some error := e.error then IO.eprintln ("Error: " ++ error)
  return UInt32.ofNat e.code

/-- What is said of a job that needs a terminal of its own or a network. -/
def beyond : Command.Ending := ⟨"", some "neither a terminal nor a network is at hand"⟩

/-- Carries out a command line. -/
def run (args : List String) : IO UInt32 := do
  match Command.parse args with
  | .error .displayVersion => report ⟨Command.versionText, none⟩
  | .error .displayHelp => report ⟨"", none⟩
  | .error e =>
      IO.eprintln ("error: " ++ e.name)
      return 2
  | .ok invocation =>
      match Config.load (← settingsText?) (← IO.getEnv Config.baseUrlVariable) with
      | none => report ⟨"", some "TOML parse error"⟩
      | some config => report ((Command.jobOf config invocation).ending?.getD beyond)

end Counsel

/-- Runs the program on a command line. -/
def main (args : List String) : IO UInt32 := Counsel.run args
