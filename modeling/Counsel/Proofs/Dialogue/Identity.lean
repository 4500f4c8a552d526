import Counsel.Proofs.Dialogue.Saved

/-!
Tickets and identifiers: what tells requests and sessions apart.

* An operation sends nothing, or one request under the ticket after the last one
  (`Controller.Asks`), and what it waits for after that it waited for before, or has just asked for
  (`Controller.opener_after`, `Controller.sending_after`). So every opener that is waited for has a
  ticket that was issued (`Trail.Reachable.opener_issued`), and a ticket never comes back.
* Every saved session has an identifier that was given (`Trail.Reachable.ids_given`), and so, in a
  run whose identifiers are new, a session that is created is none of those that were there.
-/

namespace Counsel.Dialogue

namespace Controller

/-- What an operation sends, and what it waits for then. -/
inductive Asks (c c' : Controller) : Option Outbound → Prop where
  | nothing (last : c'.lastTicket = c.lastTicket)
      (opener : ∀ p ∈ c'.opener, p ∈ c.opener) : Asks c c' none
  /-- An opener is asked for, for the draft on view, which wants one. -/
  | opener {o : Outbound} (kind : o.kind = .opener) (ticket : o.ticket = c.nextTicket)
      (last : c'.lastTicket = c.lastTicket + 1) (wanted : c'.wantsOpener = true)
      (waited : c'.opener = some ⟨o.ticket, c'.store.draft.key, c'.epoch⟩) : Asks c c' (some o)
  | turn {o : Outbound} (kind : o.kind = .turn) (ticket : o.ticket = c.nextTicket)
      (last : c'.lastTicket = c.lastTicket + 1) (opener : c'.opener = c.opener) :
      Asks c c' (some o)

variable {c c' : Controller} {op : Operation} {o : Outbound}

/-- Asking for an opener, after something that left the pending one and the count alone. -/
theorem Asks.ensureOpener (opener : c'.opener = c.opener) (last : c'.lastTicket = c.lastTicket) :
    Asks c c'.ensureOpener.1 c'.ensureOpener.2 := by
  by_cases asks : (c'.wantsOpener && !c'.awaitsOpener) = true
  · have wanted : c'.wantsOpener = true := (Bool.and_eq_true_iff.mp asks).1
    simp only [Controller.ensureOpener, if_pos asks]
    exact .opener rfl (by simp [nextTicket, last]) (by simp [last]) wanted rfl
  · simp only [Controller.ensureOpener, if_neg asks]
    exact .nothing last (by simp [opener])

theorem asks_complete (c : Controller) (ticket : Ticket) (outcome : Outcome) :
    Asks c (c.complete ticket outcome).1 none := by
  rcases c.complete_cases ticket outcome with ⟨p, -, -, result⟩ | ⟨p, -, -, result⟩ | result
  · obtain ⟨_, _, _, frame⟩ := c.completeOpener_frame p outcome
    rw [result, frame]
    exact .nothing rfl (by simp)
  · obtain ⟨_, _, _, frame⟩ := c.completeTurn_frame p outcome
    rw [result, frame]
    exact .nothing rfl (by simp)
  · rw [result]
    exact .nothing rfl (by simp)

/-- Whatever an operation sends is one of the cases of `Asks`. -/
theorem asks (c : Controller) (op : Operation) : Asks c (c.after op) (c.sent op) := by
  unfold after sent
  cases op with
  | ensureOpener => exact .ensureOpener rfl rfl
  | navigate dest stamp =>
      obtain ⟨_, _, _, left⟩ := c.leaveDraft_frame stamp
      simp only [perform, navigate, left]
      split
      · exact .nothing rfl (by simp)
      · split
        · exact .nothing rfl (by simp [enter])
        · exact .ensureOpener rfl rfl
  | setInput text => exact .nothing rfl (by simp [perform, setInput])
  | submit =>
      simp only [perform, submit]
      split
      · exact .turn rfl rfl rfl rfl
      · exact .nothing rfl (by simp)
  | complete ticket outcome => exact c.asks_complete ticket outcome
  | save stamp =>
      simp only [perform, save]
      split
      · exact .nothing rfl (by simp)
      · exact .nothing rfl (by simp)
  | select selection => exact .ensureOpener rfl rfl
  | delete id => exact .ensureOpener rfl rfl
  | rename id title => exact .nothing rfl (by simp [perform, rename])

/-- The ticket of a request is the next one. -/
theorem ticket_of_sent (sent : c.sent op = some o) : o.ticket = c.nextTicket := by
  have asks := c.asks op
  rw [sent] at asks
  cases asks with
  | opener _ ticket _ _ _ => exact ticket
  | turn _ ticket _ _ => exact ticket

/-- An opener that is sent is for the draft on view, which wants one. -/
theorem opener_of_sent (sent : c.sent op = some o) (kind : o.kind = .opener) :
    (c.after op).wantsOpener = true ∧
      (c.after op).opener =
        some ⟨o.ticket, (c.after op).store.draft.key, (c.after op).epoch⟩ := by
  have asks := c.asks op
  rw [sent] at asks
  cases asks with
  | opener _ _ _ wanted waited => exact ⟨wanted, waited⟩
  | turn other _ _ _ =>
      rw [kind] at other
      cases other

theorem request_of_ensureOpener (sent : c.ensureOpener.2 = some o) :
    o.kind = .opener ∧ o.request =
      .opener c.ensureOpener.1.store.draft.key.tool Selection.current.wireId := by
  rw [ensureOpener_store]
  unfold ensureOpener at sent
  split at sent
  · cases sent
    exact ⟨rfl, rfl⟩
  · cases sent

/-- A request is for the opener of the draft that there is then, or it is the user's turn. -/
theorem request_of_sent (sent : c.sent op = some o) :
    op = .submit ∧ c.canSubmit = true ∧ o = ⟨c.nextTicket, .turn, c.turnRequest⟩ ∨
      o.kind = .opener ∧ o.request =
        .opener (c.after op).store.draft.key.tool Selection.current.wireId := by
  cases op with
  | submit =>
      obtain ⟨can, same⟩ := sent_submit.mp sent
      exact Or.inl ⟨rfl, can, same.symm⟩
  | ensureOpener => exact Or.inr (request_of_ensureOpener sent)
  | select selection => exact Or.inr (request_of_ensureOpener sent)
  | delete id => exact Or.inr (request_of_ensureOpener sent)
  | navigate dest stamp =>
      right
      simp only [Controller.sent, after, perform, navigate] at sent ⊢
      split at sent
      · cases sent
      · split at sent
        · cases sent
        · rename_i moves unsaved
          simp only [if_neg moves, if_neg unsaved]
          exact request_of_ensureOpener sent
  | _ => cases sent

/-- Every request is counted. -/
theorem lastTicket_after (c : Controller) (op : Operation) :
    (c.after op).lastTicket = c.lastTicket + (c.sent op).toList.length := by
  have asks := c.asks op
  revert asks
  generalize c.sent op = request
  intro asks
  cases asks with
  | nothing last _ => exact last
  | opener _ _ last _ _ => exact last
  | turn _ _ last _ => exact last

theorem lastTicket_le_after (c : Controller) (op : Operation) :
    c.lastTicket ≤ (c.after op).lastTicket := by
  rw [c.lastTicket_after op]
  exact Nat.le_add_right _ _

/-- What an operation leaves of the opener that is waited for. -/
inductive OpenerChange (c c' : Controller) : Prop where
  | kept (opener : c'.opener = c.opener) (last : c.lastTicket ≤ c'.lastTicket)
  | closed (opener : c'.opener = none) (last : c.lastTicket ≤ c'.lastTicket)
  /-- An opener was asked for, for the draft that there is now. -/
  | asked (opener : c'.opener = some ⟨c.nextTicket, c'.store.draft.key, c'.epoch⟩)
      (last : c'.lastTicket = c.lastTicket + 1)

/-- Every operation leaves the pending opener as it is, closes it, or asks for another one under
the next ticket. -/
theorem openerChange (c : Controller) (op : Operation) : OpenerChange c (c.after op) := by
  have asks := c.asks op
  revert asks
  generalize c.sent op = request
  intro asks
  cases asks with
  | nothing last opener =>
      cases waited : (c.after op).opener with
      | none => exact .closed waited (Nat.le_of_eq last.symm)
      | some p =>
          have before : c.opener = some p := opener p waited
          exact .kept (waited.trans before.symm) (Nat.le_of_eq last.symm)
  | opener _ ticket last _ waited => exact .asked (by rw [waited, ticket]) last
  | turn _ _ last opener => exact .kept opener (by omega)

/-- An opener waited for after an operation was waited for before, or was sent by it. -/
theorem opener_after {p : PendingOpener} (waited : p ∈ (c.after op).opener) :
    p ∈ c.opener ∨ ∃ o, c.sent op = some o ∧ o.ticket = p.ticket ∧ o.kind = .opener := by
  have asks := c.asks op
  revert asks
  generalize c.sent op = request
  intro asks
  cases asks with
  | nothing _ opener => exact Or.inl (opener p waited)
  | turn _ _ _ opener => exact Or.inl (by rwa [opener] at waited)
  | @opener o kind _ _ _ now =>
      rw [now] at waited
      cases waited
      exact Or.inr ⟨o, rfl, rfl, kind⟩

/-- An opener waited for after an operation was waited for before, or has the next ticket. -/
theorem ticket_of_opener_after {op : Operation} {p : PendingOpener}
    (waited : p ∈ (c.after op).opener) : p ∈ c.opener ∨ p.ticket = c.nextTicket := by
  rcases opener_after waited with before | ⟨o, sent, same, -⟩
  · exact Or.inl before
  · exact Or.inr (same.symm.trans (ticket_of_sent sent))

/-- A save on the user's wish gives up whatever is waited for. -/
theorem after_save {stamp : Stamp} (content : c.store.draft.hasContent = true) :
    (c.after (.save stamp)).opener = none ∧ (c.after (.save stamp)).sending = none := by
  simp [after, perform, save, content]

/-- A turn waited for after an operation was waited for before, or was sent by it. -/
theorem sending_after {op : Operation} {p : PendingTurn} (waited : p ∈ (c.after op).sending) :
    (∃ q ∈ c.sending, q.ticket = p.ticket) ∨
      op = .submit ∧ ∃ o, c.sent .submit = some o ∧ o.ticket = p.ticket := by
  cases c.change op with
  | keep _ _ _ _ sending => exact Or.inl ⟨p, by rwa [← sending], rfl⟩
  | delete _ sending => exact Or.inl ⟨p, by rwa [← sending], rfl⟩
  | rename _ sending => exact Or.inl ⟨p, by rwa [← sending], rfl⟩
  | greet _ _ _ sending => exact Or.inl ⟨p, by rwa [← sending], rfl⟩
  | answer _ _ _ sending => simp [sending] at waited
  | drop _ _ _ sending => simp [sending] at waited
  | save _ _ _ sending => simp [sending] at waited
  | ask words free _ sending =>
      rw [sending] at waited
      cases waited
      have can : c.canSubmit = true := by
        simpa [canSubmit, free, Text.trim_eq_empty] using words
      exact Or.inr ⟨rfl, _, sent_submit.mpr ⟨can, rfl⟩, rfl⟩
  | leave _ _ _ _ _ sending =>
      rw [sending] at waited
      obtain ⟨q, before, rfl⟩ := Option.map_eq_some_iff.mp waited
      exact Or.inl ⟨q, before, (q.redirect_ticket _).symm⟩
  | abandon _ _ _ _ sending =>
      rw [sending] at waited
      obtain ⟨q, before, rfl⟩ := Option.map_eq_some_iff.mp waited
      exact Or.inl ⟨q, before, (q.redirect_ticket _).symm⟩

end Controller

namespace Trail

variable {t : Trail} {op : Operation}

/-- Identifiers stay given. -/
theorem given_next {id : SessionId} (old : id ∈ t.given) : id ∈ (t.next op).given :=
  List.mem_append_right _ old

/-- The identifier of a session that is created is given from then on. -/
theorem created_given {s : SavedSession} (created : t.controller.created op = some s) :
    s.id ∈ (t.next op).given := by
  simp [next, created]

/-- An opener that is waited for has a ticket that was issued. -/
theorem Reachable.opener_issued (reached : t.Reachable) :
    ∀ p ∈ t.controller.opener, p.ticket.number ≤ t.controller.lastTicket := by
  induction reached with
  | opened tool axis => simp [start, Controller.new]
  | @step t op _ _ ih =>
      intro p waited
      have mono := t.controller.lastTicket_le_after op
      cases t.controller.openerChange op with
      | kept opener _ =>
          have old := ih p (by rwa [← opener])
          exact Nat.le_trans old mono
      | closed opener _ =>
          rw [Trail.next, opener] at waited
          cases waited
      | asked opener last =>
          rw [Trail.next, opener] at waited
          cases waited
          exact Nat.le_of_eq last.symm

/-- The identifiers in use after an operation were in use before, or one was given by it. -/
theorem ids_next {id : SessionId} (used : id ∈ (t.next op).controller.store.ids) :
    id ∈ t.controller.store.ids ∨ ∃ s, t.controller.created op = some s ∧ s.id = id := by
  obtain ⟨kept, saved, each⟩ := t.controller.saved_after op
  simp only [next, Store.ids, saved, List.map_append] at used
  rcases List.mem_append.mp used with created | old
  · obtain ⟨s, made, same⟩ := List.mem_map.mp created
    exact Or.inr ⟨s, Option.mem_toList.mp made, same⟩
  · rw [Kept.list_ids each] at old
    exact Or.inl ((List.filter_sublist.map _).subset old)

/-- Every saved session has an identifier that was given. -/
theorem Reachable.ids_given (reached : t.Reachable) :
    ∀ id ∈ t.controller.store.ids, id ∈ t.given := by
  induction reached with
  | opened tool axis => simp [start, Controller.new, Store.new, Store.ids]
  | step _ _ ih =>
      intro id used
      rcases ids_next used with old | ⟨s, created, rfl⟩
      · exact given_next (ih id old)
      · exact created_given created

end Trail
end Counsel.Dialogue
