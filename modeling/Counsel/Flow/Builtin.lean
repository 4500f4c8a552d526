import Counsel.Flow.Registry

/-!
The flows every dialogue service knows: one for each kind of decision that is worth a script.
-/

namespace Counsel.Builtin

/-- What worked about a decision, what did not, and what to change. -/
def debrief : Flow where
  id := "debrief"
  start := "worked"
  nodes := .ofList
    [("worked", .collect
        "What worked about how you made this decision?"
        "missed"),
      ("missed", .collect
        "What didn't work, or what did you miss?"
        "change"),
      ("change", .collect
        "What is one thing you'd change next time?"
        "done"),
      ("done", .finish <| some
        "Write the change down where you'll see it before your next similar decision.")]

/-- The options of a decision, and the reasons in one's control. -/
def decisionExploration : Flow where
  id := "decision_exploration"
  start := "options"
  nodes := .ofList
    [("options", .collect
        "Which options are you choosing between?"
        "win_in_control"),
      ("win_in_control", .collect
        "If your favourite option wins, which reasons would be in your control?"
        "fail_in_control"),
      ("fail_in_control", .collect
        "If it fails, which reasons would be in your control?"
        "done"),
      ("done", .finish <| some
        ("Compare the reasons you control across options; those are where extra effort pays " ++
         "off."))]

/-- The best and the worst case of an option, and how likely they are. -/
def decisionMultiverse : Flow where
  id := "decision_multiverse"
  start := "option"
  nodes := .ofList
    [("option", .collect
        "Pick one option. What is the best plausible outcome?"
        "worst"),
      ("worst", .collect
        "What is the worst plausible outcome for that option?"
        "likelihood"),
      ("likelihood", .composite
        [⟨"best_odds", "scale_1_5",
            "How likely is the best case?", none⟩,
          ⟨"worst_odds", "scale_1_5",
            "How likely is the worst case?", none⟩]
        "max(worst_odds) <= 2"
        [⟨some "tolerable", false, "promising"⟩, ⟨none, true, "risky"⟩]
        (.ofList [("1", "very unlikely"), ("5", "very likely")])),
      ("promising", .finish <| some
        "The downside looks unlikely. Check the next option the same way before choosing."),
      ("risky", .finish <| some
        ("The worst case is a real possibility. Look for ways to protect against it or " ++
         "compare a safer option."))]

/-- A goal with its measure and its deadline. -/
def goalDefine : Flow where
  id := "goal_define"
  start := "outcome"
  nodes := .ofList
    [("outcome", .collect
        "What are you trying to accomplish?"
        "metric"),
      ("metric", .collect
        "How will you measure it? Name a metric, a target and a unit."
        "deadline"),
      ("deadline", .collect
        "By when do you want to hit that target?"
        "realistic"),
      ("realistic", .yesno
        "Do you have the time and resources to get there?"
        "ready" "rescope"),
      ("rescope", .finish <| some
        ("Shrink the scope or move the deadline until the goal is realistic, then define it " ++
         "again.")),
      ("ready", .finish <| some
        "Your goal is specific, measurable and time-bound. Move on to exploring the decision.")]

/-- How much time a decision deserves. -/
def howFast : Flow where
  id := "how_fast"
  start := "happiness_test"
  nodes := .ofList
    [("happiness_test", .composite
        [⟨"year", "scale_1_5",
            "If this turns out badly, how much will it affect your happiness a year from now?",
            none⟩,
          ⟨"month", "scale_1_5",
            "And a month from now?", none⟩,
          ⟨"day", "scale_1_5",
            "And a week from now?", none⟩]
        "max(year,month,day) <= 2"
        [⟨some "low_impact", false, "go_fast"⟩, ⟨none, true, "reversible"⟩]
        (.ofList [("1", "not at all"), ("3", "noticeably"), ("5", "enormously")])),
      ("reversible", .yesno
        "Could you quit or reverse this choice later at a low cost?"
        "go_fast" "parallel"),
      ("parallel", .yesno
        "Can you try more than one option at the same time?"
        "go_fast" "slow_down"),
      ("go_fast", .finish <| some
        ("Decide fast. The downside is small or recoverable, so spend the time you save on " ++
         "decisions that matter more.")),
      ("slow_down", .finish <| some
        ("Slow down. This choice is high-impact and hard to undo: gather more information " ++
         "and pressure-test your options before committing."))]

/-- The flows, in the order of their names. -/
def flows : List Flow := [debrief, decisionExploration, decisionMultiverse, goalDefine, howFast]

/-- The registry of these flows. -/
def registry : Registry := .ofFlows flows

end Counsel.Builtin
