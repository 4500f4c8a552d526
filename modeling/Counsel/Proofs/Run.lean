import Mathlib.Data.List.Basic

/-!
Runs of a system that takes one event after another: `next` is the state after an event, and a run
is a fold of `next` over a list of events.

* `Run.Along`: something holds at every step of a run.
* `Run.collect`: what the steps of a run give, in their order.
* `Run.keeps`: what every step keeps is kept by the run.
* `Run.forall_mem_collect`: what holds of all that each step gives holds of all that the run gives.
-/

namespace Counsel.Run

variable {State Event Result : Type} {next : State → Event → State}

/-- Something holds of every step of a run. -/
def Along (next : State → Event → State) (P : State → Event → Prop) : State → List Event → Prop
  | _, [] => True
  | s, e :: events => P s e ∧ Along next P (next s e) events

instance instDecidableAlong (next : State → Event → State) (P : State → Event → Prop)
    [∀ s e, Decidable (P s e)] :
    ∀ (s : State) (events : List Event), Decidable (Along next P s events)
  | _, [] => .isTrue trivial
  | s, e :: events =>
      have := instDecidableAlong next P (next s e) events
      inferInstanceAs (Decidable (_ ∧ _))

/-- What the steps of a run give, in their order. -/
def collect (next : State → Event → State) (give : State → Event → List Result) :
    State → List Event → List Result
  | _, [] => []
  | s, e :: events => give s e ++ collect next give (next s e) events

variable {P : State → Event → Prop} {s : State} {events more : List Event}

theorem along_append :
    Along next P s (events ++ more) ↔
      Along next P s events ∧ Along next P (events.foldl next s) more := by
  induction events generalizing s with
  | nil => simp [Along]
  | cons e events ih => simp only [List.cons_append, Along, ih, List.foldl_cons, and_assoc]

theorem along_and {Q : State → Event → Prop} :
    Along next (fun s e => P s e ∧ Q s e) s events ↔
      Along next P s events ∧ Along next Q s events := by
  induction events generalizing s with
  | nil => simp [Along]
  | cons e events ih => simp only [Along, ih, and_and_and_comm]

/-- What every step of a run keeps is kept by the run. -/
theorem keeps {Q : State → Prop} (step : ∀ s e, Q s → P s e → Q (next s e)) (start : Q s)
    (along : Along next P s events) : Q (events.foldl next s) := by
  induction events generalizing s with
  | nil => exact start
  | cons e events ih => exact ih (step s e start along.1) along.2

/-- If every step gives what the step of another kind gives through `f`, so does the run. -/
theorem collect_filterMap {Other : Type} {give : State → Event → List Result}
    {give' : State → Event → List Other} {f : Other → Option Result}
    (step : ∀ s e, P s e → give s e = (give' s e).filterMap f) (along : Along next P s events) :
    collect next give s events = (collect next give' s events).filterMap f := by
  induction events generalizing s with
  | nil => rfl
  | cons e events ih =>
      rw [collect, collect, List.filterMap_append, step s e along.1, ih along.2]

/-- What holds of all that a step gives, where `Q` is kept, holds of all that a run gives. -/
theorem forall_mem_collect {give : State → Event → List Result} {Q : State → Prop}
    {R : Result → Prop} (step : ∀ s e, Q s → P s e → Q (next s e))
    (each : ∀ s e, Q s → ∀ x ∈ give s e, R x) (start : Q s) (along : Along next P s events) :
    ∀ x ∈ collect next give s events, R x := by
  induction events generalizing s with
  | nil =>
      intro x member
      cases member
  | cons e events ih =>
      intro x member
      rcases List.mem_append.mp member with now | later
      · exact each s e start x now
      · exact ih (step s e start along.1) along.2 x later

end Counsel.Run
