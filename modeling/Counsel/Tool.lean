import Counsel.Json.Shape
import Counsel.Text.Blank

/-!
The decision tools: what they are called, when in a decision they are used, and what the dialogue
service is told about each.
-/

namespace Counsel

/-- Whether a tool is for the time before a decision or after it. -/
inductive Stage where
  | pre
  | post
  deriving DecidableEq, Repr

/-- A decision-support tool. -/
inductive Tool where
  | smartGoal
  | decisionContext
  | decisionMultiverse
  | decisionStacker
  | decisionExploration
  | perspectiveTracking
  | optionExploration
  | speedChecker
  | resulting
  | debrief
  | luckVsSkill
  deriving DecidableEq, Repr

/-- What the dialogue service knows about a tool. -/
structure Profile where
  guidance : String
  flowId : Option String := none
  opener : Option String := none
  deriving DecidableEq, Repr

namespace Stage

/-- Both stages in the order of a decision. -/
def all : List Stage := [.pre, .post]

def label : Stage → String
  | .pre => "Pre Decision Tools"
  | .post => "Post Decision Tools"

def name : Stage → String
  | .pre => "pre"
  | .post => "post"

/-- The stage of a name. -/
def ofName? (s : String) : Option Stage := all.find? (·.name = s)

def decoder : Json.Decoder Stage := .named .nothing ofName?

def encode (stage : Stage) : Json.Value := .text stage.name

end Stage

namespace Tool

/-- Every tool, in the order in which they are offered. -/
def all : List Tool :=
  [.smartGoal, .decisionContext, .decisionMultiverse, .decisionStacker, .decisionExploration,
    .perspectiveTracking, .optionExploration, .speedChecker, .resulting, .debrief, .luckVsSkill]

/-- The tool a workspace opens on. -/
def default : Tool := .decisionContext

instance : Inhabited Tool := ⟨default⟩

/-- The name of a tool in queries, requests and settings. -/
def slug : Tool → String
  | .smartGoal => "smart-goal"
  | .decisionContext => "decision-context"
  | .decisionMultiverse => "decision-multiverse"
  | .decisionStacker => "decision-stacker"
  | .decisionExploration => "decision-exploration"
  | .perspectiveTracking => "perspective-tracking"
  | .optionExploration => "option-exploration"
  | .speedChecker => "speed-checker"
  | .resulting => "resulting"
  | .debrief => "debrief"
  | .luckVsSkill => "luck-vs-skill"

/-- The name of a tool on the screen and in titles. -/
def label : Tool → String
  | .smartGoal => "SMART Goal"
  | .decisionContext => "Decision Context"
  | .decisionMultiverse => "Decision Multiverse"
  | .decisionStacker => "Decision Stacker"
  | .decisionExploration => "Decision Exploration"
  | .perspectiveTracking => "Perspective Tracking"
  | .optionExploration => "Option Exploration"
  | .speedChecker => "Speed Checker"
  | .resulting => "UnResulter"
  | .debrief => "Decision Debrief"
  | .luckVsSkill => "Luck vs Skill"

def stage : Tool → Stage
  | .resulting | .debrief | .luckVsSkill => .post
  | _ => .pre

/-- A goal tool keeps one conversation, whatever axis is chosen. -/
def isGoal (tool : Tool) : Bool := tool = .smartGoal

/-- The tools of a stage, in the order in which they are offered. -/
def ofStage (stage : Stage) : List Tool := all.filter (·.stage = stage)

def profile : Tool → Profile
  | .smartGoal =>
      { guidance := "Clarify the user's goal and constraints."
        flowId := some "goal_define"
        opener := some "What are you trying to accomplish?" }
  | .decisionContext =>
      { guidance :=
          "Establish the context of the decision: who decides, by when, and what is at stake." }
  | .decisionMultiverse =>
      { guidance := "Help the user map plausible best/base/worst cases."
        flowId := some "decision_multiverse" }
  | .decisionStacker =>
      { guidance :=
          "Order decisions to unlock information; start with low-impact prerequisites." }
  | .decisionExploration =>
      { guidance := "Clarify options and key trade-offs."
        flowId := some "decision_exploration" }
  | .perspectiveTracking =>
      { guidance := "Collect supportive & skeptical POVs and missing info." }
  | .optionExploration =>
      { guidance := "Enumerate outcomes (upsides/downsides) for an option."
        opener := some "What decision are we exploring, in one sentence?" }
  | .speedChecker =>
      { guidance := "Determine decision speed (reversible? quit cost? shots on goal?)."
        flowId := some "how_fast"
        opener := some "Quick check: what's the decision? I'll run the speed test next." }
  | .resulting =>
      { guidance := "Separate decision quality from outcomes; capture lessons." }
  | .debrief =>
      { guidance := "Quick debrief: what worked, what didn't, one change."
        flowId := some "debrief" }
  | .luckVsSkill =>
      { guidance := "Assess contributions of luck vs. skill to outcome." }

/-- The tool with exactly this slug. -/
def ofSlug? (s : String) : Option Tool := all.find? (·.slug = s)

/-- The tool a text names: its slug, with blanks around it, or the older spelling
`speed_checker`. -/
def parse? (s : String) : Option Tool :=
  let name := Text.trim s
  ofSlug? (if name = "speed_checker" then "speed-checker" else name)

/-- What is said of a text that names no tool. -/
def unknownMessage (s : String) : String := "unknown tool: " ++ s

def decoder : Json.Decoder Tool := .named .nothing ofSlug?

def encode (tool : Tool) : Json.Value := .text tool.slug

theorem mem_all (tool : Tool) : tool ∈ all := by cases tool <;> decide

theorem ofSlug?_slug (tool : Tool) : ofSlug? tool.slug = some tool := by cases tool <;> decide

/-- Every tool is the one its own name names. -/
theorem parse?_slug (tool : Tool) : parse? tool.slug = some tool := by cases tool <;> decide

end Tool

namespace Profile

/-- What every tool asks of the service. -/
def baseInstruction : String :=
  "Ask one targeted question at a time. Be concise and keep momentum."

/-- The opener of a tool that has neither a flow nor an opener of its own. -/
def genericOpener : String := "What decision are we working on?"

def systemPrompt (profile : Profile) : String := profile.guidance ++ " " ++ baseInstruction

def fallbackOpener (profile : Profile) : String := profile.opener.getD genericOpener

end Profile
end Counsel
