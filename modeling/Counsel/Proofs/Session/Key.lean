import Counsel.Navigation
import Counsel.Proofs.Text.Blank
import Counsel.Session.Store

/-!
Normalised keys. Normalising makes a normalised key (`SessionKey.of_normal`) and a normalised
navigation (`Navigation.of_normal`); `Navigation.of_eq` says what it takes away. Between normalised
keys a session is for a key exactly if it has it (`SavedSession.isFor_iff`): the axis that a goal
tool ignores is not there.
-/

namespace Counsel

namespace SessionKey

variable {key : SessionKey}

theorem normalAxis_normalAxis (tool : Tool) (axis : Option String) :
    normalAxis tool (normalAxis tool axis) = normalAxis tool axis := by
  unfold normalAxis
  split
  · rfl
  · cases axis with
    | none => rfl
    | some text =>
        by_cases blank : Text.trim text = ""
        · simp [blank, Option.filter_some]
        · simp [blank, Option.filter_some]

/-- Normalising makes a normalised key. -/
theorem of_normal (tool : Tool) (axis : Option String) : (of tool axis).Normal := by
  simp only [Normal, of, normalAxis_normalAxis]

theorem Normal.axis_of_isGoal (normal : key.Normal) (goal : key.tool.isGoal = true) :
    key.axis = none := by
  have same := congrArg SessionKey.axis normal
  rw [← same]
  simp [of, normalAxis, goal]

end SessionKey

namespace Navigation

/-- Every navigation that was made by normalising is normalised. -/
theorem of_normal (tool : Tool) (axis : Option String) : (of tool axis).Normal :=
  congrArg ofKey (SessionKey.of_normal tool axis)

/-- Normalising takes the axis from a goal tool, and from a text for an axis the blanks around it;
a blank text is none. -/
theorem of_eq (tool : Tool) (axis : Option String) :
    of tool axis =
      ⟨tool, if tool = .smartGoal then none else (axis.map Text.trim).filter (· ≠ "")⟩ := by
  simp only [of, ofKey, SessionKey.of, SessionKey.normalAxis, Tool.isGoal, decide_eq_true_eq]

theorem key_injective {n m : Navigation} (same : n.key = m.key) : n = m := by
  cases n
  cases m
  simpa [key] using same

/-- The key of a normalised navigation is normalised. -/
theorem key_normalise_normal (n : Navigation) : n.normalise.key.Normal :=
  SessionKey.of_normal n.tool n.axis

end Navigation

/-- Between normalised keys, a session is for its own key only. -/
theorem SavedSession.isFor_iff {s : SavedSession} {key : SessionKey} (own : s.key.Normal)
    (normal : key.Normal) : s.isFor key = true ↔ s.key = key := by
  constructor
  · intro fits
    simp only [isFor, Bool.and_eq_true, Bool.or_eq_true, decide_eq_true_eq] at fits
    obtain ⟨tool, goal | axis⟩ := fits
    · have noAxis : s.axis = none := own.axis_of_isGoal (by rwa [← tool] at goal)
      have nowhere : key.axis = none := normal.axis_of_isGoal goal
      rw [SavedSession.key, tool, noAxis, ← nowhere]
    · rw [SavedSession.key, tool, axis]
  · rintro rfl
    simp [isFor, SavedSession.key]

end Counsel
