import Counsel.Proofs.Dialogue.Commuting
import Counsel.Proofs.Dialogue.Running

/-!
The catalogue of axes: what a workspace holds of it, and what its screens are told.

The service may send a catalogue along with an opener or a reply. `Actor.brought` is the one that an
applied reply carries; both ends hang on that. The actor broadcasts exactly what was brought
(`Actor.catalogues_receive`), and the dialogue holds the last that was (`Actor.axes_receive`), so a
screen that starts from the default catalogue and follows the broadcasts shows what the dialogue
holds.

* `catalogue_broadcast`: in every run, whatever the order of commands and outcomes, the catalogues
  broadcast are those of the applied replies, the dialogue holds the last of them, and an outcome
  that is dropped or a failure leaves both alone.
-/

namespace Counsel.Dialogue

/-- The catalogue that screens are told of. -/
def Event.catalogue? : Event → Option (List Axis)
  | .changed => none
  | .axes catalogue => some catalogue

namespace Controller

variable {c : Controller}

@[simp] theorem ensureOpener_axes (c : Controller) : c.ensureOpener.1.axes = c.axes := by
  unfold ensureOpener
  split <;> rfl

/-- Only an outcome changes the catalogue. -/
theorem axes_after (c : Controller) {op : Operation}
    (other : ∀ ticket outcome, op ≠ .complete ticket outcome) : (c.after op).axes = c.axes := by
  cases op with
  | ensureOpener => simp [after, perform]
  | navigate dest stamp =>
      by_cases stays : dest.normalise = c.navigation
      · rw [after_navigate_of_stays stamp stays]
      · obtain ⟨_, _, _, left⟩ := c.leaveDraft_frame stamp
        simp only [after, perform_navigate stamp stays]
        split <;> simp [enter, left]
  | setInput text => rfl
  | submit =>
      simp only [after, perform, submit]
      split <;> rfl
  | complete ticket outcome => exact absurd rfl (other ticket outcome)
  | save stamp =>
      simp only [after, perform, save]
      split <;> rfl
  | select selection => simp [after, perform, select]
  | delete id => simp [after, perform, delete]
  | rename id title => rfl

end Controller

namespace Actor

variable {a : Actor}

/-- The catalogue that a signal brings: the one that a reply carries, if the reply is applied. -/
def brought (a : Actor) : Signal → List (List Axis)
  | .finished ticket (.ok reply) =>
      if (a.controller.complete ticket (.ok reply)).2.applied then reply.axes.toList else []
  | _ => []

/-- What an outcome brings is the catalogue that it is taken to bring when it is completed. -/
theorem brought_finished (a : Actor) (ticket : Ticket) (outcome : Outcome) :
    a.brought (.finished ticket outcome) =
      (a.controller.complete ticket outcome).2.axes.toList := by
  obtain ⟨-, carried⟩ := a.controller.complete_catalogue ticket outcome
  rw [carried]
  cases outcome with
  | ok reply =>
      simp only [brought, Controller.axesOf]
      split <;> rfl
  | error failure => simp [brought, Controller.axesOf]

/-- What a signal brings is broadcast, and no other catalogue is. -/
theorem catalogues_receive (a : Actor) (signal : Signal) :
    (a.receive signal).events.filterMap Event.catalogue? = a.brought signal := by
  have silent : ∀ (result : Controller × Option Outbound) (changed : Bool) (answer : Answer),
      (a.step result changed answer).events.filterMap Event.catalogue? = [] := by
    intro result changed answer
    cases changed <;> rfl
  cases signal with
  | finished ticket outcome =>
      rw [brought_finished]
      simp only [receive, finish, List.filterMap_append]
      cases (a.controller.complete ticket outcome).2.applied <;>
        cases (a.controller.complete ticket outcome).2.axes <;> rfl
  | command command stamp =>
      cases command with
      | idle waiter =>
          simp only [receive, handle]
          split <;> rfl
      | _ => exact silent _ _ _

/-- The dialogue holds what a signal brings, or else what it held. -/
theorem axes_receive (a : Actor) (signal : Signal) :
    (a.receive signal).actor.controller.axes =
      (a.brought signal).getLast?.getD a.controller.axes := by
  cases signal with
  | finished ticket outcome =>
      obtain ⟨held, -⟩ := a.controller.complete_catalogue ticket outcome
      rw [brought_finished]
      simp only [receive, finish, held]
      cases (a.controller.complete ticket outcome).2.axes <;> rfl
  | command command stamp =>
      rcases a.receive_cases (.command command stamp) with ⟨op, does, same, -⟩ | ⟨-, same, -⟩
      · rw [same]
        refine a.controller.axes_after ?_
        rintro ticket outcome rfl
        cases Signal.eq_finished does
      · rw [same]
        rfl

/-- A dropped outcome and a failure bring nothing. -/
theorem brought_of_failed {ticket : Ticket} {outcome : Outcome}
    (failed : (a.controller.complete ticket outcome).2.applied = false ∨
      ∃ failure, outcome = .error failure) : a.brought (.finished ticket outcome) = [] := by
  rcases failed with dropped | ⟨failure, rfl⟩
  · obtain ⟨-, carried⟩ := a.controller.complete_catalogue ticket outcome
    simp [brought_finished, carried, dropped]
  · rfl

end Actor

namespace Running

variable {r : Running}

/-- What screens are told in a run. -/
def told : Running → List Signal → List Event :=
  Run.collect next fun r signal => (r.actor.receive signal).events

/-- The catalogues of the replies that are applied in a run, in the order in which they are. -/
def brought : Running → List Signal → List (List Axis) :=
  Run.collect next fun r signal => r.actor.brought signal

/-- What is brought in a run is broadcast, in the same order. -/
theorem catalogues_told (r : Running) (signals : List Signal) :
    (r.told signals).filterMap Event.catalogue? = r.brought signals := by
  induction signals generalizing r with
  | nil => rfl
  | cons signal signals ih =>
      calc (r.told (signal :: signals)).filterMap Event.catalogue?
          = (r.actor.receive signal).events.filterMap Event.catalogue? ++
              ((r.next signal).told signals).filterMap Event.catalogue? := List.filterMap_append
        _ = r.brought (signal :: signals) := by
            rw [r.actor.catalogues_receive, ih]
            rfl

/-- After a run the dialogue holds what was brought last, or else what it held. -/
theorem axes_run (r : Running) (signals : List Signal) :
    (r.run signals).actor.controller.axes =
      (r.brought signals).getLast?.getD r.actor.controller.axes := by
  induction signals generalizing r with
  | nil => rfl
  | cons signal signals ih =>
      have here : (r.next signal).actor.controller.axes =
          (r.actor.brought signal).getLast?.getD r.actor.controller.axes :=
        r.actor.axes_receive signal
      have both : r.brought (signal :: signals) =
          r.actor.brought signal ++ (r.next signal).brought signals := rfl
      calc (r.run (signal :: signals)).actor.controller.axes
          = ((r.next signal).run signals).actor.controller.axes := rfl
        _ = ((r.next signal).brought signals).getLast?.getD
              ((r.actor.brought signal).getLast?.getD r.actor.controller.axes) := by rw [ih, here]
        _ = (r.brought (signal :: signals)).getLast?.getD r.actor.controller.axes := by
            rw [both, List.getLast?_append]
            cases ((r.next signal).brought signals).getLast? <;> rfl

/-- **The catalogue is what was broadcast last.** In every run, with commands and outcomes in
whatever order:

* the catalogues broadcast are those that the applied replies carried, in the order in which these
  were applied, each as often as it was brought;
* the dialogue holds the last of them, or the default catalogue if there was none;
* an outcome that comes next and is dropped, or that is a failure, broadcasts no catalogue and
  leaves the one there is. -/
theorem catalogue_broadcast (navigation : Navigation) (signals : List Signal) :
    let t := start navigation
    let a := (t.run signals).actor
    let broadcast := (t.told signals).filterMap Event.catalogue?
    broadcast = t.brought signals ∧
      a.controller.axes = broadcast.getLast?.getD Axis.defaultCatalogue ∧
      ∀ ticket outcome, ((a.controller.complete ticket outcome).2.applied = false ∨
          ∃ failure, outcome = .error failure) →
        (a.receive (.finished ticket outcome)).events.filterMap Event.catalogue? = [] ∧
        (a.receive (.finished ticket outcome)).actor.controller.axes = a.controller.axes := by
  intro t a broadcast
  have opened : t.actor.controller.axes = Axis.defaultCatalogue :=
    Controller.ensureOpener_axes (Controller.new navigation)
  have same : broadcast = t.brought signals := t.catalogues_told signals
  refine ⟨same, ?_, ?_⟩
  · rw [same, ← opened]
    exact t.axes_run signals
  · intro ticket outcome failed
    have none := a.brought_of_failed failed
    rw [a.catalogues_receive, a.axes_receive, none]
    exact ⟨rfl, rfl⟩

/-- Two replies bring a catalogue each, and then the opener comes, too late: nobody takes the one
that it brings. -/
theorem catalogue_broadcast_before_late_opener :
    let stamp : Stamp := ⟨⟨1⟩, ⟨0, 0⟩⟩
    let reply (axes : List Axis) : Outcome := .ok ⟨"Wait.", some axes⟩
    let stage : Axis := ⟨"stage", "Stage"⟩
    let signals : List Signal := [.command (.setInput "What now?") stamp, .command .submit stamp,
      .finished ⟨2⟩ (reply [stage]), .command (.setInput "And then?") stamp,
      .command .submit stamp, .finished ⟨3⟩ (reply [])]
    ((start ⟨.debrief, none⟩).told signals).filterMap Event.catalogue? = [[stage], []] ∧
      ((start ⟨.debrief, none⟩).run signals).actor.controller.axes = [] ∧
      (((start ⟨.debrief, none⟩).run signals).actor.receive
        (.finished ⟨1⟩ (reply [stage, stage]))).events.filterMap Event.catalogue? = [] ∧
      (((start ⟨.debrief, none⟩).run signals).actor.receive
        (.finished ⟨1⟩ (reply [stage, stage]))).actor.controller.axes = [] := by
  intro stamp reply stage signals
  have told : ((start ⟨.debrief, none⟩).told signals).filterMap Event.catalogue? =
      [[stage], []] := by decide
  have dropped : (((start ⟨.debrief, none⟩).run signals).actor.controller.complete ⟨1⟩
      (reply [stage, stage])).2.applied = false := by decide
  obtain ⟨-, last, failed⟩ := catalogue_broadcast ⟨.debrief, none⟩ signals
  obtain ⟨silent, kept⟩ := failed ⟨1⟩ (reply [stage, stage]) (Or.inl dropped)
  have held : ((start ⟨.debrief, none⟩).run signals).actor.controller.axes = [] := by
    rw [last, told]
    rfl
  exact ⟨told, held, silent, kept.trans held⟩

end Running
end Counsel.Dialogue
