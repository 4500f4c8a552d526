import Counsel.Dialogue.Actor
import Counsel.Proofs.Dialogue.Tickets
import Counsel.Proofs.Run

/-!
The actor under way, with the requests that it sent.

The actor takes commands and outcomes in any order (`Signal`). It counts its requests and does not
know which they are; `Running` keeps those whose outcome it has not handled, and an outcome comes
for one of them, once (`Running.Legal`). `Running.abandoned` are the turns that were on their way
when the user saved the draft, which is when the controller gives up what it waits for.

* `Actor.receive_cases`: to the dialogue a signal is one operation, whose request is sent, or none.
* `Running.Balanced`: the count is right, no two outstanding requests share a ticket, and what the
  controller waits for is outstanding. Every run keeps this (`Running.balanced_run`).
-/

namespace Counsel.Dialogue

/-- What comes to the actor: a command, with the stamp for the session that it may save, or the
outcome of a request. -/
inductive Signal where
  | command (command : Command) (stamp : Stamp)
  | finished (ticket : Ticket) (outcome : Outcome)
  deriving Repr

namespace Signal

/-- What a signal does to the dialogue, if anything. -/
def operation? : Signal → Option Operation
  | .command (.navigate dest) stamp => some (.navigate dest stamp)
  | .command (.setInput text) _ => some (.setInput text)
  | .command .submit _ => some .submit
  | .command .save stamp => some (.save stamp)
  | .command (.select selection) _ => some (.select selection)
  | .command (.delete id) _ => some (.delete id)
  | .command (.rename id title) _ => some (.rename id title)
  | .command .snapshot _ => none
  | .command (.idle _) _ => none
  | .finished ticket outcome => some (.complete ticket outcome)

section Operation

variable {signal : Signal} {ticket : Ticket} {outcome : Outcome} {stamp : Stamp}

theorem eq_finished (does : signal.operation? = some (.complete ticket outcome)) :
    signal = .finished ticket outcome := by
  cases signal with
  | finished => cases does; rfl
  | command command => cases command <;> cases does

theorem eq_save (does : signal.operation? = some (.save stamp)) :
    signal = .command .save stamp := by
  cases signal with
  | finished => cases does
  | command command =>
      cases command with
      | save => cases does; rfl
      | _ => cases does

theorem eq_submit (does : signal.operation? = some .submit) :
    ∃ stamp, signal = .command .submit stamp := by
  cases signal with
  | finished => cases does
  | command command stamp =>
      cases command with
      | submit => exact ⟨stamp, rfl⟩
      | _ => cases does

end Operation

/-- What is left of the requests on their way when a signal comes: its outcome ends the wait for
one. -/
def settle (outstanding : List Outbound) : Signal → List Outbound
  | .command _ _ => outstanding
  | .finished ticket _ => outstanding.eraseP (·.ticket = ticket)

/-- A request stays on its way as long as its outcome does not come. -/
theorem mem_settle {outstanding : List Outbound} {signal : Signal} {o : Outbound}
    (sent : o ∈ outstanding) (other : ∀ outcome, signal ≠ .finished o.ticket outcome) :
    o ∈ signal.settle outstanding := by
  cases signal with
  | command command stamp => exact sent
  | finished ticket outcome =>
      refine (List.mem_eraseP_of_neg ?_).mpr sent
      simp only [decide_eq_true_eq]
      rintro rfl
      exact other outcome rfl

/-- An outcome takes its ticket from those on their way. -/
theorem map_ticket_settle (outstanding : List Outbound) (ticket : Ticket) (outcome : Outcome) :
    ((Signal.finished ticket outcome).settle outstanding).map (·.ticket) =
      (outstanding.map (·.ticket)).erase ticket := by
  rw [List.erase_eq_eraseP, List.eraseP_map]
  simp only [settle, Function.comp_def, beq_eq_decide, eq_comm]

theorem settle_sublist (outstanding : List Outbound) (signal : Signal) :
    List.Sublist (signal.settle outstanding) outstanding := by
  cases signal with
  | command command stamp => exact List.Sublist.refl _
  | finished ticket outcome => exact List.eraseP_sublist

end Signal

namespace Controller

variable {c : Controller} {op : Operation} {o : Outbound}

/-- Only the user's wish to send the input field sends a turn. -/
theorem submit_of_turn (sent : c.sent op = some o) (turn : o.kind = .turn) : op = .submit := by
  rcases request_of_sent sent with ⟨submits, -, -⟩ | ⟨opener, -⟩
  · exact submits
  · rw [opener] at turn
    cases turn

end Controller

namespace Actor

variable {a : Actor} {signal : Signal}

/-- Handles a signal. -/
def receive (a : Actor) : Signal → Step
  | .command command stamp => a.handle command stamp
  | .finished ticket outcome => a.finish ticket outcome

/-- To the dialogue a signal is one operation, and what that sends is sent; or it is none, and
nothing is sent. -/
theorem receive_cases (a : Actor) (signal : Signal) :
    (∃ op, signal.operation? = some op ∧
        (a.receive signal).actor.controller = a.controller.after op ∧
        (a.receive signal).dispatched = a.controller.sent op) ∨
      (signal.operation? = none ∧ (a.receive signal).actor.controller = a.controller ∧
        (a.receive signal).dispatched = none) := by
  cases signal with
  | finished ticket outcome => exact Or.inl ⟨_, rfl, rfl, rfl⟩
  | command command stamp =>
      cases command with
      | snapshot => exact Or.inr ⟨rfl, rfl, rfl⟩
      | idle waiter =>
          right
          simp only [receive, handle]
          split
          · exact ⟨rfl, rfl, rfl⟩
          · exact ⟨rfl, rfl, rfl⟩
      | _ =>
          refine Or.inl ⟨_, rfl, ?_, ?_⟩
          · simp only [receive, handle, step, dispatch, Controller.after, Controller.perform]
          · simp only [receive, handle, step, Controller.sent, Controller.perform]

/-- What every operation keeps of the dialogue, every signal keeps. -/
theorem receive_keeps {P : Controller → Prop} (after : ∀ c op, P c → P (c.after op))
    (start : P a.controller) (signal : Signal) : P (a.receive signal).actor.controller := by
  rcases a.receive_cases signal with ⟨op, -, controller, -⟩ | ⟨-, controller, -⟩
  · rw [controller]
    exact after _ op start
  · rw [controller]
    exact start

/-- What is sent has the next ticket. -/
theorem ticket_of_dispatched {o : Outbound} (sent : (a.receive signal).dispatched = some o) :
    o.ticket = a.controller.nextTicket := by
  rcases a.receive_cases signal with ⟨op, -, -, dispatched⟩ | ⟨-, -, dispatched⟩
  · exact Controller.ticket_of_sent (dispatched.symm.trans sent)
  · rw [dispatched] at sent
    cases sent

/-- An opener waited for after a signal was waited for before, and the signal is not its outcome; or
the signal sent it. -/
theorem opener_receive {p : PendingOpener}
    (waited : p ∈ (a.receive signal).actor.controller.opener) :
    (p ∈ a.controller.opener ∧ ∀ outcome, signal ≠ .finished p.ticket outcome) ∨
      ∃ o, (a.receive signal).dispatched = some o ∧ o.ticket = p.ticket ∧ o.kind = .opener := by
  rcases a.receive_cases signal with ⟨op, does, controller, dispatched⟩ | ⟨does, controller, -⟩
  · rw [controller] at waited
    rcases Controller.opener_after waited with before | sent
    · refine Or.inl ⟨before, ?_⟩
      rintro outcome rfl
      cases does
      exact Controller.opener_complete _ _ outcome p waited rfl
    · rw [dispatched]
      exact Or.inr sent
  · refine Or.inl ⟨by rwa [controller] at waited, ?_⟩
    rintro outcome rfl
    cases does

/-- A turn waited for after a signal was waited for before, perhaps for another place, and the
signal is not its outcome; or the signal sent it. -/
theorem turn_receive {p : PendingTurn}
    (differ : ∀ p ∈ a.controller.opener, ∀ q ∈ a.controller.sending, p.ticket ≠ q.ticket)
    (waited : p ∈ (a.receive signal).actor.controller.sending) :
    ((∃ q ∈ a.controller.sending, q.ticket = p.ticket) ∧
        ∀ outcome, signal ≠ .finished p.ticket outcome) ∨
      ∃ o, (a.receive signal).dispatched = some o ∧ o.ticket = p.ticket ∧ o.kind = .turn := by
  rcases a.receive_cases signal with ⟨op, does, controller, dispatched⟩ | ⟨does, controller, -⟩
  · rw [controller] at waited
    rcases Controller.sending_after waited with before | ⟨rfl, o, sent, same⟩
    · refine Or.inl ⟨before, ?_⟩
      rintro outcome rfl
      cases does
      exact Controller.turn_complete differ _ outcome p waited rfl
    · obtain ⟨-, rfl⟩ := Controller.sent_submit.mp sent
      exact Or.inr ⟨_, dispatched.trans sent, same, rfl⟩
  · refine Or.inl ⟨⟨p, by rwa [controller] at waited, rfl⟩, ?_⟩
    rintro outcome rfl
    cases does

/-- Every request is counted with its ticket. -/
theorem lastTicket_receive (a : Actor) (signal : Signal) :
    (a.receive signal).actor.controller.lastTicket =
      a.controller.lastTicket + (a.receive signal).dispatched.toList.length := by
  rcases a.receive_cases signal with ⟨op, -, controller, dispatched⟩ | ⟨-, controller, dispatched⟩
  · rw [controller, dispatched, a.controller.lastTicket_after op]
  · rw [controller, dispatched]
    rfl

/-- A command leaves the requests in flight alone, but for the one it sends. -/
theorem inFlight_command (a : Actor) (command : Command) (stamp : Stamp) :
    (a.receive (.command command stamp)).actor.inFlight =
      a.inFlight + (a.receive (.command command stamp)).dispatched.toList.length := by
  have counted : ∀ (result : Controller × Option Outbound) (changed : Bool) (answer : Answer),
      (a.step result changed answer).actor.inFlight =
        a.inFlight + (a.step result changed answer).dispatched.toList.length := by
    intro result changed answer
    rcases result with ⟨c, _ | o⟩ <;> rfl
  cases command with
  | idle waiter =>
      simp only [receive, handle]
      split
      · exact counted (a.controller, none) false .done
      · rfl
  | _ => exact counted _ _ _

end Actor

/-- The actor under way. -/
structure Running where
  actor : Actor
  /-- The requests that were sent and whose outcome was not handled. -/
  outstanding : List Outbound
  /-- The turns that were on their way when the user saved the draft. -/
  abandoned : List Ticket
  deriving DecidableEq, Repr

namespace Running

/-- A workspace just opened: its opener was asked for. -/
def start (navigation : Navigation) : Running where
  actor := (Actor.start navigation).actor
  outstanding := (Actor.start navigation).dispatched.toList
  abandoned := []

/-- The turns on their way. -/
def turns (r : Running) : List Outbound := r.outstanding.filter (·.kind = .turn)

/-- The turns that a signal gives up: all on their way, if the user saves a draft that has a
conversation. -/
def givenUp (r : Running) : Signal → List Ticket
  | .command .save _ =>
      if r.actor.controller.store.draft.hasContent then r.turns.map (·.ticket) else []
  | _ => []

/-- The actor after a signal, with the requests on their way then. -/
def next (r : Running) (signal : Signal) : Running where
  actor := (r.actor.receive signal).actor
  outstanding := signal.settle r.outstanding ++ (r.actor.receive signal).dispatched.toList
  abandoned := r.abandoned ++ r.givenUp signal

/-- The actor after signals one after another. -/
def run : Running → List Signal → Running := List.foldl next

/-- Every request sent has one outcome: what comes is a command, or the outcome of a request on its
way. -/
def Legal (r : Running) : Signal → Prop
  | .command _ _ => True
  | .finished ticket _ => ticket ∈ r.outstanding.map (·.ticket)

instance (r : Running) (signal : Signal) : Decidable (r.Legal signal) := by
  unfold Legal
  split <;> infer_instance

variable {r : Running} {signal : Signal} {signals : List Signal} {o o' : Outbound}

theorem mem_outstanding_next :
    o ∈ (r.next signal).outstanding ↔
      o ∈ signal.settle r.outstanding ∨ (r.actor.receive signal).dispatched = some o := by
  rw [next, List.mem_append, Option.mem_toList]

theorem outstanding_of_settled (left : o ∈ signal.settle r.outstanding) : o ∈ r.outstanding :=
  (signal.settle_sublist r.outstanding).subset left

/-- A request of a kind is on its way under a ticket. -/
def OnItsWay (r : Running) (ticket : Ticket) (kind : RequestKind) : Prop :=
  ∃ o ∈ r.outstanding, o.ticket = ticket ∧ o.kind = kind

/-- It stays so until its outcome comes. -/
theorem OnItsWay.next {ticket : Ticket} {kind : RequestKind} (sent : r.OnItsWay ticket kind)
    (other : ∀ outcome, signal ≠ .finished ticket outcome) :
    (r.next signal).OnItsWay ticket kind := by
  obtain ⟨o, sent, rfl, rfl⟩ := sent
  exact ⟨o, mem_outstanding_next.mpr (Or.inl (Signal.mem_settle sent other)), rfl, rfl⟩

/-- The count of requests in flight is right, the requests are told apart by their tickets, which
were all issued, and what the controller waits for is on its way. -/
structure Balanced (r : Running) : Prop where
  counted : r.actor.inFlight = r.outstanding.length
  distinct : (r.outstanding.map (·.ticket)).Nodup
  issued : ∀ o ∈ r.outstanding, o.ticket.number ≤ r.actor.controller.lastTicket
  opener : ∀ p ∈ r.actor.controller.opener, r.OnItsWay p.ticket .opener
  turn : ∀ p ∈ r.actor.controller.sending, r.OnItsWay p.ticket .turn

namespace Balanced

variable (balanced : r.Balanced)
include balanced

/-- A request on its way is known by its ticket. -/
theorem injective (sent : o ∈ r.outstanding) (sent' : o' ∈ r.outstanding)
    (same : o.ticket = o'.ticket) : o = o' :=
  List.inj_on_of_nodup_map balanced.distinct sent sent' same

/-- The opener and the turn that are waited for have different tickets. -/
theorem tickets_differ :
    ∀ p ∈ r.actor.controller.opener, ∀ q ∈ r.actor.controller.sending, p.ticket ≠ q.ticket := by
  intro p opened q sending same
  obtain ⟨o, sent, mine, opener⟩ := balanced.opener p opened
  obtain ⟨o', sent', mine', turn⟩ := balanced.turn q sending
  cases balanced.injective sent sent' (mine.trans (same.trans mine'.symm))
  rw [opener] at turn
  cases turn

/-- When an outcome may come, some request is in flight. -/
theorem inFlight_pos {ticket : Ticket} {outcome : Outcome}
    (legal : r.Legal (.finished ticket outcome)) : 0 < r.actor.inFlight := by
  obtain ⟨o, sent, -⟩ := List.mem_map.mp legal
  rw [balanced.counted]
  exact List.length_pos_of_mem sent

/-- A request whose outcome came is not on its way any more. -/
theorem ticket_ne_of_settled {ticket : Ticket} {outcome : Outcome}
    (left : o ∈ (Signal.finished ticket outcome).settle r.outstanding) : o.ticket ≠ ticket := by
  have member : o.ticket ∈ (r.outstanding.map (·.ticket)).erase ticket := by
    rw [← Signal.map_ticket_settle _ ticket outcome]
    exact List.mem_map_of_mem left
  exact (balanced.distinct.mem_erase_iff.mp member).1

theorem counted_next (legal : r.Legal signal) :
    (r.next signal).actor.inFlight = (r.next signal).outstanding.length := by
  have counted := balanced.counted
  cases signal with
  | command command stamp =>
      simp only [next, Signal.settle, List.length_append, Actor.inFlight_command, counted]
  | finished ticket outcome =>
      -- The actor's subtraction stops at zero, but a request is on its way here.
      obtain ⟨o, sent, same⟩ := List.mem_map.mp legal
      have one := List.length_eraseP_of_mem (p := (·.ticket = ticket)) sent (by simpa using same)
      have handled :
          (r.next (.finished ticket outcome)).actor.inFlight = r.actor.inFlight - 1 := rfl
      have left : (r.next (.finished ticket outcome)).outstanding =
          r.outstanding.eraseP (·.ticket = ticket) := List.append_nil _
      rw [handled, left, one, counted]

theorem distinct_next (signal : Signal) :
    ((r.next signal).outstanding.map (·.ticket)).Nodup := by
  have settled : ((signal.settle r.outstanding).map (·.ticket)).Nodup :=
    balanced.distinct.sublist ((signal.settle_sublist r.outstanding).map _)
  rw [next, List.map_append]
  cases sent : (r.actor.receive signal).dispatched with
  | none => simpa using settled
  | some o =>
      refine settled.append (List.nodup_singleton o.ticket) (List.disjoint_singleton.mpr ?_)
      intro old
      obtain ⟨o', left, same⟩ := List.mem_map.mp old
      have issued := balanced.issued o' (outstanding_of_settled left)
      simp only [same, Actor.ticket_of_dispatched sent, Controller.nextTicket] at issued
      omega

theorem issued_next (signal : Signal) :
    ∀ o ∈ (r.next signal).outstanding, o.ticket.number ≤
      (r.next signal).actor.controller.lastTicket := by
  intro o sent
  have counted := r.actor.lastTicket_receive signal
  simp only [next] at counted ⊢
  rcases mem_outstanding_next.mp sent with left | new
  · have issued := balanced.issued o (outstanding_of_settled left)
    omega
  · simp only [new, Option.toList_some, List.length_singleton] at counted
    simp only [counted, Actor.ticket_of_dispatched new, Controller.nextTicket]
    omega

theorem opener_next (signal : Signal) :
    ∀ p ∈ (r.next signal).actor.controller.opener,
      (r.next signal).OnItsWay p.ticket .opener := by
  intro p waited
  rcases Actor.opener_receive waited with ⟨before, other⟩ | ⟨o, sent, same, kind⟩
  · exact (balanced.opener p before).next other
  · exact ⟨o, mem_outstanding_next.mpr (Or.inr sent), same, kind⟩

theorem turn_next (signal : Signal) :
    ∀ p ∈ (r.next signal).actor.controller.sending,
      (r.next signal).OnItsWay p.ticket .turn := by
  intro p waited
  rcases Actor.turn_receive balanced.tickets_differ waited with
    ⟨⟨q, before, same⟩, other⟩ | ⟨o, sent, same, kind⟩
  · have onItsWay := balanced.turn q before
    rw [same] at onItsWay
    exact onItsWay.next other
  · exact ⟨o, mem_outstanding_next.mpr (Or.inr sent), same, kind⟩

theorem next (legal : r.Legal signal) : (r.next signal).Balanced where
  counted := balanced.counted_next legal
  distinct := balanced.distinct_next signal
  issued := balanced.issued_next signal
  opener := balanced.opener_next signal
  turn := balanced.turn_next signal

end Balanced

theorem balanced_start (navigation : Navigation) : (start navigation).Balanced where
  counted := rfl
  distinct := List.nodup_singleton _
  issued := by
    intro o sent
    cases List.mem_singleton.mp sent
    exact Nat.le_refl 1
  opener := by
    intro p waited
    cases waited
    exact ⟨_, List.mem_singleton_self _, rfl, rfl⟩
  turn := by
    intro p waited
    cases waited

/-- In every run the books are balanced. -/
theorem balanced_run (navigation : Navigation)
    (legal : Run.Along next Legal (start navigation) signals) :
    ((start navigation).run signals).Balanced :=
  Run.keeps (fun _ _ balanced legal => balanced.next legal) (balanced_start navigation) legal

end Running
end Counsel.Dialogue
