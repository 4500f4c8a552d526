import Counsel.Proofs.Dialogue.Running

/-!
Waiting for the dialogue to be idle.

Who asks while nothing is in flight is answered at once; everyone else waits, and all who wait are
answered together when the last request in flight has its outcome. `Running.answered` lists who was
answered in a run, and `Running.asked` who asked.

* `idle_means_idle`: the actor's count is right, nobody waits while nothing is in flight, and
  everyone who asks is answered once, in the order of asking, when the dialogue waits for nothing.
-/

namespace Counsel.Dialogue

/-- Whom a signal makes wait for idleness. -/
def Signal.asks : Signal → List Nat
  | .command (.idle waiter) _ => [waiter]
  | _ => []

/-- Where nothing is waited for, the dialogue is not busy. -/
theorem Controller.phase_of_unawaited {c : Controller} (opener : c.opener = none)
    (sending : c.sending = none) : c.phase ≠ .initializing ∧ c.phase ≠ .sending := by
  have unawaited : c.awaitsOpener = false := by simp only [awaitsOpener, opener]
  unfold phase
  simp only [sending, unawaited, Option.isSome_none, Bool.false_eq_true, if_false]
  split
  · exact ⟨Phase.noConfusion, Phase.noConfusion⟩
  · split <;> exact ⟨Phase.noConfusion, Phase.noConfusion⟩

namespace Actor

variable {a : Actor} {signal : Signal}

/-- Nobody waits while nothing is in flight. -/
def Prompt (a : Actor) : Prop := a.inFlight = 0 → a.waiters = []

/-- What a signal does to those who wait. -/
inductive Attends (a : Actor) (signal : Signal) (s : Step) : Prop where
  /-- Nobody asks, and nobody is answered. -/
  | nobody (asks : signal.asks = []) (woken : s.woken = []) (waiters : s.actor.waiters = a.waiters)
      (inFlight : s.actor.inFlight = 0 → a.inFlight = 0)
  /-- Who asks while nothing is in flight is answered. -/
  | atOnce {waiter : Nat} (asks : signal.asks = [waiter]) (woken : s.woken = [waiter])
      (waiters : s.actor.waiters = a.waiters) (before : a.inFlight = 0)
      (inFlight : s.actor.inFlight = 0)
  /-- Who asks at any other time waits. -/
  | later {waiter : Nat} (asks : signal.asks = [waiter]) (woken : s.woken = [])
      (waiters : s.actor.waiters = a.waiters ++ [waiter]) (inFlight : s.actor.inFlight ≠ 0)
  /-- With the last outcome in flight all who wait are answered. -/
  | everyone (asks : signal.asks = []) (woken : s.woken = a.waiters)
      (waiters : s.actor.waiters = []) (inFlight : s.actor.inFlight = 0)

theorem attends (a : Actor) (signal : Signal) : Attends a signal (a.receive signal) := by
  cases signal with
  | finished ticket outcome =>
      by_cases last : a.inFlight - 1 = 0
      · refine .everyone rfl ?_ ?_ last
        · simp only [receive, finish, if_pos last]
        · simp only [receive, finish, if_pos last]
      · refine .nobody rfl ?_ ?_ (fun rest => absurd rest last)
        · simp only [receive, finish, if_neg last]
        · simp only [receive, finish, if_neg last]
  | command command stamp =>
      have rest : (a.receive (.command command stamp)).actor.inFlight = 0 → a.inFlight = 0 := by
        have counted := a.inFlight_command command stamp
        omega
      cases command with
      | idle waiter =>
          by_cases idle : a.inFlight = 0
          · simp only [receive, handle, if_pos idle]
            exact .atOnce rfl rfl rfl idle idle
          · simp only [receive, handle, if_neg idle]
            exact .later rfl rfl rfl idle
      | _ =>
          refine .nobody rfl ?_ ?_ rest
          · simp only [receive, handle, step]
          · simp only [receive, handle, step, dispatch]

/-- Those who are answered and those who wait on are those who waited and the one who asks. -/
theorem Prompt.woken_append_waiters (prompt : a.Prompt) (signal : Signal) :
    (a.receive signal).woken ++ (a.receive signal).actor.waiters = a.waiters ++ signal.asks := by
  cases a.attends signal with
  | nobody asks woken waiters _ => simp [asks, woken, waiters]
  | atOnce asks woken waiters before _ => simp [asks, woken, waiters, prompt before]
  | later asks woken waiters _ => simp [asks, woken, waiters]
  | everyone asks woken waiters _ => simp [asks, woken, waiters]

theorem Prompt.receive (prompt : a.Prompt) (signal : Signal) : (a.receive signal).actor.Prompt := by
  intro rest
  cases a.attends signal with
  | nobody _ _ waiters inFlight => rw [waiters, prompt (inFlight rest)]
  | atOnce _ _ waiters before _ => rw [waiters, prompt before]
  | later _ _ _ busy => exact absurd rest busy
  | everyone _ _ waiters _ => exact waiters

/-- Whoever is answered is answered when nothing is in flight. -/
theorem inFlight_of_woken (woken : (a.receive signal).woken ≠ []) :
    (a.receive signal).actor.inFlight = 0 := by
  cases a.attends signal with
  | nobody _ none _ _ => exact absurd none woken
  | atOnce _ _ _ _ inFlight => exact inFlight
  | later _ none _ _ => exact absurd none woken
  | everyone _ _ _ inFlight => exact inFlight

end Actor

namespace Running

variable {r : Running} {signal : Signal} {signals : List Signal}

/-- Who asked for idleness in a run, in the order of asking. -/
def asked (signals : List Signal) : List Nat := signals.flatMap Signal.asks

/-- Who was answered in a run, in the order of the answers. -/
def answered : Running → List Signal → List Nat :=
  Run.collect next fun r signal => (r.actor.receive signal).woken

/-- Those who were answered and those who still wait are those who asked. -/
theorem answered_append_waiters (prompt : r.actor.Prompt) (signals : List Signal) :
    r.answered signals ++ (r.run signals).actor.waiters = r.actor.waiters ++ asked signals := by
  induction signals generalizing r with
  | nil => exact (List.append_nil _).symm
  | cons signal signals ih =>
      have step := prompt.woken_append_waiters signal
      have rest := ih (r := r.next signal) (prompt.receive signal)
      calc r.answered (signal :: signals) ++ (r.run (signal :: signals)).actor.waiters
          = (r.actor.receive signal).woken ++
              ((r.next signal).answered signals ++ ((r.next signal).run signals).actor.waiters) :=
            List.append_assoc _ _ _
        _ = (r.actor.receive signal).woken ++ (r.actor.receive signal).actor.waiters ++
              asked signals := by rw [rest, List.append_assoc]; rfl
        _ = r.actor.waiters ++ asked (signal :: signals) := by
            rw [step, List.append_assoc]
            rfl

theorem prompt_run (navigation : Navigation)
    (legal : Run.Along next Legal (start navigation) signals) :
    ((start navigation).run signals).actor.Prompt :=
  Run.keeps (Q := fun r => r.actor.Prompt) (fun _ signal prompt _ => prompt.receive signal)
    (fun _ => rfl) legal

/-- In a run after which nothing is on its way, everyone who asked was answered. -/
theorem answered_of_rest (navigation : Navigation)
    (legal : Run.Along next Legal (start navigation) signals)
    (rest : ((start navigation).run signals).outstanding = []) :
    (start navigation).answered signals = asked signals := by
  have idle : ((start navigation).run signals).actor.waiters = [] := by
    apply prompt_run navigation legal
    rw [(balanced_run navigation legal).counted, rest]
    rfl
  have account := answered_append_waiters (r := start navigation) (fun _ => rfl) signals
  rwa [idle, List.append_nil] at account

/-- Outcomes ask for nothing. -/
theorem asked_append_outcomes (signals : List Signal) (outcomes : List (Ticket × Outcome)) :
    asked (signals ++ outcomes.map fun p => .finished p.1 p.2) = asked signals := by
  simp [asked, List.flatMap_append, List.flatMap_map, Signal.asks]

/-- When nothing is on its way, the dialogue waits for nothing. -/
theorem Balanced.phase_of_rest (balanced : r.Balanced) (rest : r.outstanding = []) :
    r.actor.controller.phase ≠ .initializing ∧ r.actor.controller.phase ≠ .sending := by
  have nothing : ∀ ticket kind, ¬ r.OnItsWay ticket kind := by
    rintro ticket kind ⟨o, sent, -⟩
    rw [rest] at sent
    cases sent
  apply Controller.phase_of_unawaited
  · exact Option.eq_none_iff_forall_not_mem.mpr fun p waited =>
      nothing _ _ (balanced.opener p waited)
  · exact Option.eq_none_iff_forall_not_mem.mpr fun p waited =>
      nothing _ _ (balanced.turn p waited)

/-- The outcomes of all requests on their way may come in any order, and leave none. -/
theorem drain {outcomes : List (Ticket × Outcome)}
    (all : (outcomes.map (·.1)).Perm (r.outstanding.map (·.ticket))) :
    Run.Along next Legal r (outcomes.map fun p => .finished p.1 p.2) ∧
      (r.run (outcomes.map fun p => .finished p.1 p.2)).outstanding = [] := by
  -- The first outcome takes its ticket from those on their way; the others stay a permutation.
  induction outcomes generalizing r with
  | nil => exact ⟨trivial, List.map_eq_nil_iff.mp (List.nil_perm.mp all)⟩
  | cons first outcomes ih =>
      obtain ⟨legal, others⟩ := List.cons_perm_iff_perm_erase.mp all
      have left : (r.next (.finished first.1 first.2)).outstanding =
          (Signal.finished first.1 first.2).settle r.outstanding := List.append_nil _
      rw [← Signal.map_ticket_settle _ first.1 first.2, ← left] at others
      obtain ⟨rest, none⟩ := ih others
      exact ⟨⟨legal, rest⟩, none⟩

/-- **Idle means idle.** In every run, with commands and outcomes in whatever order:

* the requests in flight are counted right, the count is not zero when an outcome comes, and what
  the dialogue waits for is in flight;
* nobody waits for idleness while nothing is in flight;
* those who were answered, and then those who wait, are those who asked, in the order of asking;
* whoever is answered is answered when nothing is in flight and the dialogue is not busy;
* once the outcomes in flight have come, in any order, everyone who asked has been answered once. -/
theorem idle_means_idle (navigation : Navigation)
    (legal : Run.Along next Legal (start navigation) signals) :
    let r := (start navigation).run signals
    r.Balanced ∧ (∀ ticket outcome, r.Legal (.finished ticket outcome) → 0 < r.actor.inFlight) ∧
      (r.actor.waiters ≠ [] → 0 < r.actor.inFlight) ∧
      (start navigation).answered signals ++ r.actor.waiters = asked signals ∧
      (∀ signal, r.Legal signal → (r.actor.receive signal).woken ≠ [] →
        (r.next signal).outstanding = [] ∧
          (r.next signal).actor.controller.phase ≠ .initializing ∧
          (r.next signal).actor.controller.phase ≠ .sending) ∧
      ∀ outcomes : List (Ticket × Outcome),
        (outcomes.map (·.1)).Perm (r.outstanding.map (·.ticket)) →
        let rest := outcomes.map fun p => Signal.finished p.1 p.2
        Run.Along next Legal r rest ∧
          (start navigation).answered (signals ++ rest) = asked signals := by
  intro r
  have balanced : r.Balanced := balanced_run navigation legal
  have prompt : r.actor.Prompt := prompt_run navigation legal
  have account := answered_append_waiters (r := start navigation) (fun _ => rfl) signals
  refine ⟨balanced, fun _ _ => balanced.inFlight_pos, ?_, account, ?_, ?_⟩
  · intro waits
    by_contra rest
    exact waits (prompt (by omega))
  · intro signal legal woken
    have balanced' := balanced.next legal
    have rest : (r.next signal).outstanding = [] := by
      rw [← List.length_eq_zero_iff, ← balanced'.counted]
      exact Actor.inFlight_of_woken woken
    exact ⟨rest, balanced'.phase_of_rest rest⟩
  · intro outcomes all rest
    obtain ⟨legal', none⟩ := drain all
    refine ⟨legal', ?_⟩
    rw [answered_of_rest navigation (Run.along_append.mpr ⟨legal, legal'⟩),
      asked_append_outcomes]
    rw [run, List.foldl_append]
    exact none

/-- Two ask while the opener that was asked for first is superseded: one before it comes, and one
after it. The answers come with the opener that took its place. -/
theorem idle_means_idle_across_navigation :
    let stamp : Stamp := ⟨⟨1⟩, ⟨0, 0⟩⟩
    let hello : Outcome := .ok ⟨"Hello.", none⟩
    let signals : List Signal := [.command (.idle 1) stamp,
      .command (.navigate ⟨.debrief, none⟩) stamp, .finished ⟨1⟩ hello, .command (.idle 2) stamp]
    let t := start ⟨.decisionExploration, none⟩
    Run.Along next Legal t signals ∧ (t.run signals).actor.inFlight = 1 ∧
      t.answered signals ++ (t.run signals).actor.waiters = [1, 2] ∧
      t.answered (signals ++ [.finished ⟨2⟩ hello]) = [1, 2] := by
  intro stamp hello signals t
  have legal : Run.Along next Legal t signals := by decide
  obtain ⟨-, -, -, account, -, drained⟩ := idle_means_idle ⟨.decisionExploration, none⟩ legal
  have all : ([(⟨2⟩, hello)].map (·.1)).Perm ((t.run signals).outstanding.map (·.ticket)) := by
    decide
  exact ⟨legal, by decide, account, (drained [(⟨2⟩, hello)] all).2⟩

end Running
end Counsel.Dialogue
