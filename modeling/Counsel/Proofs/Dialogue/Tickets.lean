import Counsel.Proofs.Dialogue.Identity
import Mathlib.Data.List.Induction
import Mathlib.Data.List.Nodup

/-!
Tickets: by what an outcome is known that may come late, twice, or among others.

The tickets of a run are counted up one by one (`tickets_consecutive`), and what is waited for was
asked for, an opener as an opener and a turn as a turn (`opener_requested`, `turn_requested`).

`Controller.Over` is a ticket issued before that nothing is waited for under. No operation brings
it back, and an outcome under it changes nothing. `Controller.Ends` lists what makes it so: an
outcome that came, a newer opener, and a save on the user's wish.

* `tickets_used_once`: in every run all tickets are distinct, the two that are waited for differ,
  each is applied at most once, and an outcome under any other changes nothing.
-/

namespace Counsel.Dialogue

namespace Controller

variable {c : Controller} {op : Operation} {ticket : Ticket}

/-- No opener is waited for any more under a ticket whose outcome came. -/
theorem opener_complete (c : Controller) (ticket : Ticket) (outcome : Outcome) :
    ∀ p ∈ (c.complete ticket outcome).1.opener, p.ticket ≠ ticket := by
  intro p waited same
  have before : p ∈ c.opener := by
    cases c.asks_complete ticket outcome with
    | nothing _ opener => exact opener p waited
  obtain ⟨_, _, _, frame⟩ := c.completeOpener_frame p outcome
  rw [complete_of_opener before same, frame] at waited
  cases waited

/-- No turn is waited for any more under a ticket whose outcome came, if no opener shared it. -/
theorem turn_complete (differ : ∀ p ∈ c.opener, ∀ q ∈ c.sending, p.ticket ≠ q.ticket)
    (ticket : Ticket) (outcome : Outcome) :
    ∀ q ∈ (c.complete ticket outcome).1.sending, q.ticket ≠ ticket := by
  intro q waited same
  have after : q ∈ (c.after (.complete ticket outcome)).sending := waited
  obtain ⟨q', sending, mine⟩ : ∃ q' ∈ c.sending, q'.ticket = q.ticket := by
    rcases sending_after after with before | ⟨other, -⟩
    · exact before
    · cases other
  have opener : ∀ p ∈ c.opener, p.ticket ≠ ticket := by
    intro p opened shared
    exact differ p opened q' sending (shared.trans (mine.trans same).symm)
  obtain ⟨_, _, _, frame⟩ := c.completeTurn_frame q' outcome
  rw [complete_of_turn opener sending (mine.trans same), frame] at waited
  cases waited

/-- A ticket that was issued and that nothing is waited for under any more. -/
structure Over (c : Controller) (ticket : Ticket) : Prop where
  issued : ticket.number ≤ c.lastTicket
  opener : ∀ p ∈ c.opener, p.ticket ≠ ticket
  turn : ∀ p ∈ c.sending, p.ticket ≠ ticket

/-- What is sent has a ticket never issued before, so nothing brings an old one back. -/
theorem Over.after (closed : c.Over ticket) (op : Operation) : (c.after op).Over ticket := by
  have new : ∀ o, c.sent op = some o → o.ticket ≠ ticket := by
    rintro o sent rfl
    have issued := closed.issued
    simp only [ticket_of_sent sent, nextTicket] at issued
    omega
  constructor
  · exact Nat.le_trans closed.issued (c.lastTicket_le_after op)
  · intro p waited same
    rcases opener_after waited with before | ⟨o, sent, mine, -⟩
    · exact closed.opener p before same
    · exact new o sent (mine.trans same)
  · intro p waited same
    rcases sending_after waited with ⟨q, before, mine⟩ | ⟨rfl, o, sent, mine⟩
    · exact closed.turn q before (mine.trans same)
    · exact new o sent (mine.trans same)

theorem Over.complete (closed : c.Over ticket) (outcome : Outcome) :
    c.complete ticket outcome = (c, .discarded) :=
  complete_of_unawaited closed.opener closed.turn outcome

/-- What ends the wait for a request: its outcome, a newer opener if it is for one, or a save on
the user's wish. -/
inductive Ends (c : Controller) (o : Outbound) : Operation → Prop where
  | completed (outcome : Outcome) : Ends c o (.complete o.ticket outcome)
  | replaced {op : Operation} {newer : Outbound} (kind : o.kind = .opener)
      (sent : c.sent op = some newer) (opener : newer.kind = .opener) : Ends c o op
  | abandoned {stamp : Stamp} (content : c.store.draft.hasContent = true) : Ends c o (.save stamp)

/-- The ticket under which an operation applies an outcome, if it does. -/
def applies (c : Controller) : Operation → Option Ticket
  | .complete ticket outcome =>
      if (c.complete ticket outcome).2.applied then some ticket else none
  | _ => none

theorem applies_eq_some :
    c.applies op = some ticket ↔
      ∃ outcome, op = .complete ticket outcome ∧ (c.complete ticket outcome).2.applied = true := by
  cases op with
  | complete other outcome =>
      simp only [applies, Option.ite_none_right_eq_some, Option.some.injEq,
        Operation.complete.injEq]
      constructor
      · rintro ⟨applied, rfl⟩
        exact ⟨outcome, ⟨rfl, rfl⟩, applied⟩
      · rintro ⟨_, ⟨rfl, rfl⟩, applied⟩
        exact ⟨applied, rfl⟩
  | _ => simp [applies]

end Controller

namespace Trail

variable {tool : Tool} {axis : Option String} {ops : List Operation} {op : Operation}
  {o : Outbound} {ticket : Ticket}

/-- The requests that a run sends, in their order. -/
def requests : Trail → List Operation → List Outbound := collect Controller.sent

/-- The tickets whose outcomes a run applies, in their order. -/
def applied : Trail → List Operation → List Ticket := collect Controller.applies

/-- The tickets of a run are counted up one by one. -/
theorem tickets_consecutive (t : Trail) (ops : List Operation) :
    (t.requests ops).map (·.ticket.number) =
      List.range' (t.controller.lastTicket + 1) (t.requests ops).length := by
  induction ops generalizing t with
  | nil => rfl
  | cons op ops ih =>
      have counted := t.controller.lastTicket_after op
      have rest := ih (t.next op)
      simp only [requests, collect, next] at rest ⊢
      cases sent : t.controller.sent op with
      | none =>
          simp only [sent, Option.toList_none, List.length_nil, Nat.add_zero] at counted
          rw [counted] at rest
          simpa using rest
      | some o =>
          have number : o.ticket.number = t.controller.lastTicket + 1 := by
            rw [Controller.ticket_of_sent sent, Controller.nextTicket]
          simp only [sent, Option.toList_some, List.length_singleton] at counted
          rw [counted] at rest
          simp [number, rest, List.range'_succ]

/-- A run counts its requests. -/
theorem lastTicket_run (t : Trail) (ops : List Operation) :
    (t.run ops).controller.lastTicket = t.controller.lastTicket + (t.requests ops).length := by
  induction ops generalizing t with
  | nil => rfl
  | cons op ops ih =>
      have counted := t.controller.lastTicket_after op
      rw [run_cons, ih]
      simp only [requests, collect, next, List.length_append] at counted ⊢
      omega

theorem tickets_nodup (t : Trail) (ops : List Operation) :
    ((t.requests ops).map (·.ticket)).Nodup := by
  have numbers : ((t.requests ops).map (·.ticket.number)).Nodup := by
    rw [tickets_consecutive]
    exact List.nodup_range'
  refine List.Nodup.of_map Ticket.number ?_
  rwa [List.map_map]

/-- A request of a run is known by its ticket. -/
theorem requests_injective {t : Trail} {o o' : Outbound} (sent : o ∈ t.requests ops)
    (sent' : o' ∈ t.requests ops) (same : o.ticket = o'.ticket) : o = o' :=
  List.inj_on_of_nodup_map (t.tickets_nodup ops) sent sent' same

theorem issued_of_mem {t : Trail} (sent : o ∈ t.requests ops) :
    o.ticket.number ≤ (t.run ops).controller.lastTicket := by
  have number : o.ticket.number ∈ (t.requests ops).map (·.ticket.number) :=
    List.mem_map_of_mem sent
  rw [tickets_consecutive, List.mem_range'_1] at number
  rw [lastTicket_run]
  omega

theorem mem_requests_concat {t : Trail} :
    o ∈ t.requests (ops ++ [op]) ↔
      o ∈ t.requests ops ∨ (t.run ops).controller.sent op = some o := by
  rw [requests, collect_concat, List.mem_append, Option.mem_toList]

/-! ### What is waited for was asked for -/

/-- An opener that is waited for was asked for. -/
theorem opener_requested (tool : Tool) (axis : Option String) (ops : List Operation) :
    ∀ p ∈ ((start tool axis).run ops).controller.opener,
      ∃ o ∈ (start tool axis).requests ops, o.ticket = p.ticket ∧ o.kind = .opener := by
  induction ops using List.reverseRecOn with
  | nil => simp [start, Controller.new]
  | append_singleton ops op ih =>
      intro p waited
      rw [run_concat] at waited
      rcases Controller.opener_after waited with before | ⟨o, sent, same, kind⟩
      · obtain ⟨o, asked, same, kind⟩ := ih p before
        exact ⟨o, mem_requests_concat.mpr (Or.inl asked), same, kind⟩
      · exact ⟨o, mem_requests_concat.mpr (Or.inr sent), same, kind⟩

/-- A turn that is waited for was asked for. -/
theorem turn_requested (tool : Tool) (axis : Option String) (ops : List Operation) :
    ∀ p ∈ ((start tool axis).run ops).controller.sending,
      ∃ o ∈ (start tool axis).requests ops, o.ticket = p.ticket ∧ o.kind = .turn := by
  induction ops using List.reverseRecOn with
  | nil => simp [start, Controller.new]
  | append_singleton ops op ih =>
      intro p waited
      rw [run_concat] at waited
      rcases Controller.sending_after waited with ⟨q, before, same⟩ | ⟨rfl, o, sent, same⟩
      · obtain ⟨o, asked, mine, kind⟩ := ih q before
        exact ⟨o, mem_requests_concat.mpr (Or.inl asked), mine.trans same, kind⟩
      · obtain ⟨-, rfl⟩ := Controller.sent_submit.mp sent
        exact ⟨_, mem_requests_concat.mpr (Or.inr sent), same, rfl⟩

/-- No turn is waited for under the ticket of an opener. -/
theorem opener_not_turn (sent : o ∈ (start tool axis).requests ops) (opener : o.kind = .opener) :
    ∀ p ∈ ((start tool axis).run ops).controller.sending, p.ticket ≠ o.ticket := by
  intro p waited same
  obtain ⟨o', sent', mine, turn⟩ := turn_requested tool axis ops p waited
  cases requests_injective sent' sent (mine.trans same)
  rw [opener] at turn
  cases turn

/-- The opener and the turn that are waited for have different tickets. -/
theorem waited_tickets_differ (tool : Tool) (axis : Option String) (ops : List Operation) :
    ∀ p ∈ ((start tool axis).run ops).controller.opener,
      ∀ q ∈ ((start tool axis).run ops).controller.sending, p.ticket ≠ q.ticket := by
  intro p opener q turn same
  obtain ⟨o, sent, mine, kind⟩ := opener_requested tool axis ops p opener
  exact opener_not_turn sent kind q turn (same.symm.trans mine.symm)

/-! ### Tickets that are over -/

/-- After what ends the wait for a request, its ticket is over. -/
theorem over_of_ends (sent : o ∈ (start tool axis).requests ops)
    (ends : ((start tool axis).run ops).controller.Ends o op) :
    ((start tool axis).run (ops ++ [op])).controller.Over o.ticket := by
  have still : o ∈ (start tool axis).requests (ops ++ [op]) :=
    mem_requests_concat.mpr (Or.inl sent)
  refine ⟨issued_of_mem still, ?_, ?_⟩
  · intro p waited
    rw [run_concat] at waited
    cases ends with
    | completed outcome => exact Controller.opener_complete _ o.ticket outcome p waited
    | replaced _ sent' opener =>
        intro same
        obtain ⟨-, now⟩ := Controller.opener_of_sent sent' opener
        rw [next, now] at waited
        cases waited
        have issued := issued_of_mem sent
        simp only [← same, Controller.ticket_of_sent sent', Controller.nextTicket] at issued
        omega
    | abandoned content =>
        rw [next, (Controller.after_save content).1] at waited
        cases waited
  · intro q waited
    cases ends with
    | completed outcome =>
        rw [run_concat] at waited
        have differ := waited_tickets_differ tool axis ops
        exact Controller.turn_complete differ o.ticket outcome q waited
    | replaced kind _ _ => exact opener_not_turn still kind q waited
    | abandoned content =>
        rw [run_concat, next, (Controller.after_save content).2] at waited
        cases waited

/-- A ticket that is over stays over. -/
theorem over_run {t : Trail} (closed : t.controller.Over ticket) (ops : List Operation) :
    (t.run ops).controller.Over ticket :=
  run_keeps (P := fun c => c.Over ticket) (fun _ op closed => closed.after op) closed ops

/-- An outcome under a ticket that was never issued changes nothing. -/
theorem complete_of_unissued
    (unissued : ticket ∉ ((start tool axis).requests ops).map (·.ticket)) (outcome : Outcome) :
    ((start tool axis).run ops).controller.complete ticket outcome =
      (((start tool axis).run ops).controller, .discarded) := by
  apply Controller.complete_of_unawaited
  · intro p waited same
    obtain ⟨o, asked, mine, -⟩ := opener_requested tool axis ops p waited
    exact unissued (List.mem_map.mpr ⟨o, asked, mine.trans same⟩)
  · intro p waited same
    obtain ⟨o, asked, mine, -⟩ := turn_requested tool axis ops p waited
    exact unissued (List.mem_map.mpr ⟨o, asked, mine.trans same⟩)

/-- A ticket is over once an outcome was applied under it. -/
theorem over_of_applies
    (applies : ((start tool axis).run ops).controller.applies op = some ticket) :
    ((start tool axis).run (ops ++ [op])).controller.Over ticket := by
  obtain ⟨outcome, rfl, applied⟩ := Controller.applies_eq_some.mp applies
  by_cases issued : ticket ∈ ((start tool axis).requests ops).map (·.ticket)
  · obtain ⟨o, asked, rfl⟩ := List.mem_map.mp issued
    exact over_of_ends asked (.completed outcome)
  · rw [complete_of_unissued issued outcome] at applied
    cases applied

theorem applied_concat {t : Trail} :
    t.applied (ops ++ [op]) = t.applied ops ++ ((t.run ops).controller.applies op).toList :=
  collect_concat _ _ _ _

/-- Tickets under which an outcome was applied are over. -/
theorem over_of_mem_applied (tool : Tool) (axis : Option String) (ops : List Operation) :
    ∀ ticket ∈ (start tool axis).applied ops,
      ((start tool axis).run ops).controller.Over ticket := by
  induction ops using List.reverseRecOn with
  | nil => simp [applied, collect]
  | append_singleton ops op ih =>
      intro ticket member
      rw [applied_concat, List.mem_append, Option.mem_toList] at member
      rcases member with before | now
      · rw [run_concat]
        exact (ih ticket before).after op
      · exact over_of_applies now

/-- No ticket is applied twice. -/
theorem applied_nodup (tool : Tool) (axis : Option String) (ops : List Operation) :
    ((start tool axis).applied ops).Nodup := by
  induction ops using List.reverseRecOn with
  | nil => simp [applied, collect]
  | append_singleton ops op ih =>
      rw [applied_concat]
      cases applies : ((start tool axis).run ops).controller.applies op with
      | none => simpa using ih
      | some ticket =>
          obtain ⟨outcome, rfl, applied⟩ := Controller.applies_eq_some.mp applies
          have new : ticket ∉ (start tool axis).applied ops := by
            intro before
            rw [(over_of_mem_applied tool axis ops ticket before).complete outcome] at applied
            cases applied
          exact ih.append (List.nodup_singleton ticket) (List.disjoint_singleton.mpr new)

/-- A ticket that nothing is to come of any more after a run: it was never issued, or the wait for
its request was ended after that was sent. -/
inductive Spent (t : Trail) (ops : List Operation) (ticket : Ticket) : Prop where
  | unissued (never : ticket ∉ (t.requests ops).map (·.ticket))
  | ended {before after : List Operation} {op : Operation} {o : Outbound}
      (run : ops = before ++ op :: after) (sent : o ∈ t.requests before)
      (same : o.ticket = ticket) (ends : (t.run before).controller.Ends o op)

/-- An outcome under a spent ticket changes nothing. -/
theorem Spent.complete (spent : (start tool axis).Spent ops ticket) (outcome : Outcome) :
    ((start tool axis).run ops).controller.complete ticket outcome =
      (((start tool axis).run ops).controller, .discarded) := by
  cases spent with
  | unissued never => exact complete_of_unissued never outcome
  | @ended before after op o run sent same ends =>
      subst run same
      have closed := over_run (over_of_ends sent ends) after
      rw [← run_append, List.append_assoc, List.singleton_append] at closed
      exact closed.complete outcome

/-- **Tickets are used once.** In every run, whatever outcomes come under whatever tickets, the
requests are counted and all their tickets are distinct; the opener and the turn that are waited
for have different ones; no ticket is applied twice; and an outcome under a spent ticket is not
applied, brings no catalogue, and changes nothing at all. -/
theorem tickets_used_once (tool : Tool) (axis : Option String) (ops : List Operation) :
    let t := start tool axis
    let now := (t.run ops).controller
    now.lastTicket = (t.requests ops).length ∧
      ((t.requests ops).map (·.ticket)).Nodup ∧
      (∀ p ∈ now.opener, ∀ q ∈ now.sending, p.ticket ≠ q.ticket) ∧
      (t.applied ops).Nodup ∧
      ∀ ticket outcome, t.Spent ops ticket →
        now.complete ticket outcome = (now, ⟨false, none⟩) := by
  intro t now
  refine ⟨?_, t.tickets_nodup ops, waited_tickets_differ tool axis ops,
    applied_nodup tool axis ops, fun _ outcome spent => spent.complete outcome⟩
  exact (t.lastTicket_run ops).trans (Nat.zero_add _)

/-- An opener that came, came again, and comes once more; a turn that was given up with a save; and
a ticket that is not there yet. -/
theorem tickets_used_once_despite_replays :
    let t := start .debrief none
    let hello : Outcome := .ok ⟨"Hello.", none⟩
    let ops := [.ensureOpener, .complete ⟨1⟩ hello, .complete ⟨1⟩ hello, .complete ⟨7⟩ hello,
      .setInput "What now?", .submit, .save ⟨⟨1⟩, ⟨0, 0⟩⟩]
    let now := (t.run ops).controller
    (t.requests ops).map (·.ticket) = [⟨1⟩, ⟨2⟩] ∧ t.applied ops = [⟨1⟩] ∧
      ∀ ticket ∈ [⟨1⟩, ⟨2⟩, ⟨3⟩], now.complete ticket hello = (now, ⟨false, none⟩) := by
  intro t hello ops now
  have tickets : (t.requests ops).map (·.ticket) = [⟨1⟩, ⟨2⟩] := by decide
  refine ⟨tickets, by decide, ?_⟩
  intro ticket member
  refine (tickets_used_once .debrief none ops).2.2.2.2 ticket hello ?_
  simp only [List.mem_cons, List.not_mem_nil, or_false] at member
  rcases member with rfl | rfl | rfl
  · have sent : ⟨⟨1⟩, .opener, .opener .debrief "current"⟩ ∈ t.requests [.ensureOpener] := by
      decide
    exact .ended rfl sent rfl (.completed hello)
  · let asked : List Operation := [.ensureOpener, .complete ⟨1⟩ hello, .complete ⟨1⟩ hello,
      .complete ⟨7⟩ hello, .setInput "What now?", .submit]
    let turn : Outbound :=
      ⟨⟨2⟩, .turn, .turn .debrief "current" "What now?" [.assistant "Hello."]⟩
    have whole : ops = asked ++ [.save ⟨⟨1⟩, ⟨0, 0⟩⟩] := rfl
    have sent : turn ∈ t.requests asked := by decide
    have content : (t.run asked).controller.store.draft.hasContent = true := by decide
    have ends : (t.run asked).controller.Ends turn (.save ⟨⟨1⟩, ⟨0, 0⟩⟩) := .abandoned content
    exact .ended whole sent rfl ends
  · exact .unissued (by rw [tickets]; decide)

end Trail
end Counsel.Dialogue
