import Counsel.Proofs.Dialogue.Running

/-!
How many turns are in flight.

A turn is sent only while none is waited for, and a wait ends with the outcome of its turn, or when
the user saves a draft. A save does not call the request back: the turn it gives up stays on its
way, its outcome will change nothing, and the user may send another one (`save_lets_turns_pile_up`).

* `one_live_turn`: of the turns on their way, at most one was not given up by a save, and it is the
  one that the dialogue shows as being sent.
-/

namespace Counsel.Dialogue

namespace Controller

variable {c : Controller} {op : Operation} {p : PendingTurn}

theorem sending_submit (can : c.canSubmit = true) :
    (c.after .submit).sending = some ⟨c.nextTicket, some c.store.selection⟩ := by
  simp [after, perform, submit, can]

/-- A turn stays waited for, until its outcome comes or the user saves the draft. -/
theorem turn_kept (waited : p ∈ c.sending) (op : Operation) :
    (∃ q ∈ (c.after op).sending, q.ticket = p.ticket) ∨
      (∃ outcome, op = .complete p.ticket outcome) ∨
      ∃ stamp, op = .save stamp ∧ c.store.draft.hasContent = true := by
  have same : ∀ c' : Controller, c'.sending = c.sending → ∃ q ∈ c'.sending, q.ticket = p.ticket :=
    fun c' sending => ⟨p, by rwa [sending], rfl⟩
  have moved : ∀ (c' : Controller) (dest : Option Selection),
      c'.sending = c.sending.map (·.redirect dest) → ∃ q ∈ c'.sending, q.ticket = p.ticket := by
    intro c' dest sending
    have before : c.sending = some p := waited
    refine ⟨p.redirect dest, ?_, p.redirect_ticket dest⟩
    rw [sending, before]
    rfl
  cases c.change op with
  | keep _ _ _ _ sending => exact Or.inl (same _ sending)
  | delete _ sending => exact Or.inl (same _ sending)
  | rename _ sending => exact Or.inl (same _ sending)
  | greet _ _ _ sending => exact Or.inl (same _ sending)
  | ask _ free _ _ =>
      rw [free] at waited
      cases waited
  | answer mine _ _ _ =>
      cases mine.symm.trans waited
      exact Or.inr (Or.inl ⟨_, rfl⟩)
  | drop mine _ _ _ =>
      cases mine.symm.trans waited
      exact Or.inr (Or.inl ⟨_, rfl⟩)
  | leave _ _ _ _ _ sending => exact Or.inl (moved _ _ sending)
  | abandon _ _ _ _ sending => exact Or.inl (moved _ _ sending)
  | save content _ _ _ => exact Or.inr (Or.inr ⟨_, rfl, content⟩)

/-- The dialogue shows a turn as being sent exactly if it waits for one. -/
theorem phase_eq_sending_iff : c.phase = .sending ↔ c.sending.isSome = true := by
  unfold phase
  split
  · rename_i waits
    simp [waits]
  · rename_i idle
    refine iff_of_false ?_ idle
    split
    · exact Phase.noConfusion
    · split
      · exact Phase.noConfusion
      · split <;> exact Phase.noConfusion

end Controller

namespace Running

variable {r : Running} {signal : Signal} {signals : List Signal} {o : Outbound}

/-- The turns on their way that were not given up. -/
def liveTurns (r : Running) : List Outbound := r.turns.filter (·.ticket ∉ r.abandoned)

/-- Every turn on its way is waited for, unless it was given up; and then nothing is waited for
under its ticket any more. -/
structure Guarded (r : Running) : Prop where
  live : ∀ o ∈ r.turns, o.ticket ∉ r.abandoned →
    ∃ p ∈ r.actor.controller.sending, p.ticket = o.ticket
  ended : ∀ ticket ∈ r.abandoned, r.actor.controller.Over ticket

namespace Guarded

variable (guarded : r.Guarded) (balanced : r.Balanced)
include guarded balanced

theorem live_next (signal : Signal) :
    ∀ o ∈ (r.next signal).turns, o.ticket ∉ (r.next signal).abandoned →
      ∃ p ∈ (r.next signal).actor.controller.sending, p.ticket = o.ticket := by
  intro o member kept
  obtain ⟨outstanding, kind⟩ := List.mem_filter.mp member
  have turn : o.kind = .turn := by simpa using kind
  simp only [next, List.mem_append, not_or] at kept
  simp only [next]
  rcases mem_outstanding_next.mp outstanding with left | sent
  · have before : o ∈ r.turns := List.mem_filter.mpr ⟨outstanding_of_settled left, kind⟩
    obtain ⟨p, waited, same⟩ := guarded.live o before kept.1
    rcases r.actor.receive_cases signal with ⟨op, does, controller, -⟩ | ⟨-, controller, -⟩
    · -- The wait ends only with the outcome, and then the turn is not on its way, or with a save,
      -- and then it was given up.
      rcases Controller.turn_kept waited op with
        ⟨q, still, mine⟩ | ⟨outcome, rfl⟩ | ⟨stamp, rfl, content⟩
      · rw [controller]
        exact ⟨q, still, mine.trans same⟩
      · cases Signal.eq_finished does
        exact absurd same.symm (balanced.ticket_ne_of_settled left)
      · cases Signal.eq_save does
        refine absurd ?_ kept.2
        rw [givenUp, if_pos content]
        exact List.mem_map_of_mem before
    · rw [controller]
      exact ⟨p, waited, same⟩
  · rcases r.actor.receive_cases signal with ⟨op, -, controller, dispatched⟩ | ⟨-, -, dispatched⟩
    · rw [dispatched] at sent
      cases Controller.submit_of_turn sent turn
      obtain ⟨can, rfl⟩ := Controller.sent_submit.mp sent
      rw [controller, Controller.sending_submit can]
      exact ⟨_, rfl, rfl⟩
    · rw [dispatched] at sent
      cases sent

theorem ended_next (signal : Signal) :
    ∀ ticket ∈ (r.next signal).abandoned, (r.next signal).actor.controller.Over ticket := by
  intro ticket member
  rcases List.mem_append.mp member with before | now
  · exact Actor.receive_keeps (P := fun c => c.Over ticket) (fun _ op closed => closed.after op)
      (guarded.ended ticket before) signal
  · unfold givenUp at now
    split at now
    · rename_i stamp
      split at now
      · rename_i content
        obtain ⟨o, turn, rfl⟩ := List.mem_map.mp now
        have issued := balanced.issued o (List.mem_filter.mp turn).1
        have saved : (r.next (.command .save stamp)).actor.controller =
            r.actor.controller.after (.save stamp) := rfl
        rw [saved]
        refine ⟨Nat.le_trans issued (r.actor.controller.lastTicket_le_after _), ?_, ?_⟩
        · simp [(Controller.after_save content).1]
        · simp [(Controller.after_save content).2]
      · cases now
    · cases now

theorem next (signal : Signal) : (r.next signal).Guarded where
  live := guarded.live_next balanced signal
  ended := guarded.ended_next balanced signal

/-- The turn that is waited for is the one live turn. -/
theorem length_liveTurns :
    r.liveTurns.length = if r.actor.controller.sending.isSome then 1 else 0 := by
  cases waited : r.actor.controller.sending with
  | none =>
      rw [liveTurns, List.filter_eq_nil_iff.mpr]
      · rfl
      · intro o turn kept
        obtain ⟨p, none, -⟩ := guarded.live o turn (by simpa using kept)
        rw [waited] at none
        cases none
  | some p =>
      obtain ⟨o, sent, same, kind⟩ := balanced.turn p waited
      have kept : o.ticket ∉ r.abandoned := fun gone =>
        (guarded.ended o.ticket gone).turn p waited same.symm
      have live : o ∈ r.liveTurns := by simp [liveTurns, turns, sent, kind, kept]
      have only : ∀ o' ∈ r.liveTurns, o' = o := by
        intro o' live'
        obtain ⟨turn', kept'⟩ := List.mem_filter.mp live'
        obtain ⟨q, mine, same'⟩ := guarded.live o' turn' (by simpa using kept')
        cases waited.symm.trans mine
        exact balanced.injective (List.mem_filter.mp turn').1 sent (same'.symm.trans same.symm)
      have distinct : r.liveTurns.Nodup :=
        ((List.Nodup.of_map _ balanced.distinct).filter _).filter _
      have all : r.liveTurns.count o = r.liveTurns.length :=
        List.count_eq_length.mpr fun o' live' => (only o' live').symm
      rw [← all, List.count_eq_one_of_mem distinct live]
      rfl

end Guarded

theorem guarded_run (navigation : Navigation)
    (legal : Run.Along next Legal (start navigation) signals) :
    ((start navigation).run signals).Guarded := by
  have start : (start navigation).Guarded := by
    constructor
    · intro o member
      cases member
    · intro ticket member
      cases member
  have both := Run.keeps (Q := fun r => r.Guarded ∧ r.Balanced)
    (fun _ signal ⟨guarded, balanced⟩ legal => ⟨guarded.next balanced signal, balanced.next legal⟩)
    ⟨start, balanced_start navigation⟩ legal
  exact both.1

/-- **One turn at a time, as long as nothing is saved.** In every run, whatever comes in whatever
order, at most one turn is on its way that was not given up by a save: one while the dialogue shows
it as being sent, and none otherwise. The outcome of a turn that was given up changes nothing. -/
theorem one_live_turn (navigation : Navigation)
    (legal : Run.Along next Legal (start navigation) signals) :
    let r := (start navigation).run signals
    let c := r.actor.controller
    r.liveTurns.length ≤ 1 ∧ (r.liveTurns.length = 1 ↔ c.phase = .sending) ∧
      ∀ ticket ∈ r.abandoned, ∀ outcome, c.complete ticket outcome = (c, .discarded) := by
  intro r c
  have guarded := guarded_run navigation legal
  have count := guarded.length_liveTurns (balanced_run navigation legal)
  refine ⟨?_, ?_, fun ticket gone outcome => (guarded.ended ticket gone).complete outcome⟩
  · rw [count]
    split <;> omega
  · rw [count, Controller.phase_eq_sending_iff]
    simp [c, r, Option.isSome_iff_ne_none]

/-- A draft is saved while the reply to it is on its way, and the user goes on: the turn that was
given up is no live one, and its reply changes nothing. -/
theorem one_live_turn_beside_abandoned :
    let stamp : Stamp := ⟨⟨1⟩, ⟨0, 0⟩⟩
    let signals : List Signal := [.command (.setInput "What now?") stamp, .command .submit stamp,
      .command .save stamp, .command (.setInput "And then?") stamp, .command .submit stamp]
    let r := (start ⟨.debrief, none⟩).run signals
    let c := r.actor.controller
    Run.Along next Legal (start ⟨.debrief, none⟩) signals ∧ r.abandoned = [⟨2⟩] ∧
      r.liveTurns.length = 1 ∧ c.complete ⟨2⟩ (.ok ⟨"Wait.", none⟩) = (c, .discarded) := by
  intro stamp signals r c
  have legal : Run.Along next Legal (start ⟨.debrief, none⟩) signals := by decide
  have sending : c.phase = .sending := by decide
  have gone : ⟨2⟩ ∈ ((start ⟨.debrief, none⟩).run signals).abandoned := by decide
  obtain ⟨-, live, dropped⟩ := one_live_turn ⟨.debrief, none⟩ legal
  exact ⟨legal, by decide, live.mpr sending, dropped ⟨2⟩ gone _⟩

/-- Two turns are on their way at once: the first was given up when its draft was saved, and nothing
called it back. -/
theorem save_lets_turns_pile_up :
    let stamp : Stamp := ⟨⟨1⟩, ⟨0, 0⟩⟩
    let signals : List Signal := [.command (.setInput "What now?") stamp, .command .submit stamp,
      .command .save stamp, .command (.setInput "And then?") stamp, .command .submit stamp]
    let r := (start ⟨.debrief, none⟩).run signals
    Run.Along next Legal (start ⟨.debrief, none⟩) signals ∧
      r.turns.map (·.request.message) = ["What now?", "And then?"] ∧ ¬ r.turns.length ≤ 1 := by
  decide

end Running
end Counsel.Dialogue
