import Counsel.Proofs.Dialogue.Coherent
import Counsel.Proofs.Dialogue.Tickets

/-!
Openers: that one comes where it is wanted, and none where it is too late.

`Controller.Settled` says that an opener that is wanted is on its way. It holds once one was
asked for, and every operation keeps it, so a panel never stays empty and silent
(`panel_never_stuck`).

`Controller.Due` is an opener on its way whose draft is as empty as it was; it is applied exactly if
the draft is on view. `Controller.overtakes` names the two things that end this: leaving the
draft, and a message of the user in it. From then on the opener is missed (`Controller.Missed`), and
no coming back helps.

* `opener_applied_iff`: an opener is applied exactly if nothing overtook it and the draft is on view
  when it comes.
-/

namespace Counsel.Dialogue

namespace Controller

variable {c c' : Controller} {op : Operation}

theorem awaitsOpener_iff :
    c.awaitsOpener = true ↔
      ∃ p ∈ c.opener, p.epoch = c.epoch ∧ p.key = c.store.draft.key := by
  unfold awaitsOpener
  cases c.opener with
  | none => simp
  | some p => simp

/-! ### An opener that is wanted is on its way -/

/-- If an opener is wanted, it is on its way. -/
def Settled (c : Controller) : Prop := c.wantsOpener = true → c.awaitsOpener = true

theorem Settled.ensureOpener_eq (settled : c.Settled) : c.ensureOpener = (c, none) := by
  have nothing : ¬ (c.wantsOpener && !c.awaitsOpener) = true := by
    intro asks
    obtain ⟨wanted, unawaited⟩ := Bool.and_eq_true_iff.mp asks
    rw [settled wanted] at unawaited
    cases unawaited
  rw [ensureOpener, if_neg nothing]

/-- Asking for an opener where one is wanted settles it. -/
theorem settled_ensureOpener (c : Controller) : c.ensureOpener.1.Settled := by
  by_cases asks : (c.wantsOpener && !c.awaitsOpener) = true
  · intro _
    simp only [ensureOpener, if_pos asks]
    exact awaitsOpener_iff.mpr ⟨_, rfl, rfl, rfl⟩
  · rw [ensureOpener, if_neg asks]
    intro wanted
    simpa [wanted] using asks

/-- No opener is wanted for a draft that has a session saved for its key. -/
theorem settled_of_saved (saved : c.store.hasSaved c.store.draft.key = true) : c.Settled := by
  intro wanted
  obtain ⟨-, -, unsaved, -⟩ := wantsOpener_iff.mp wanted
  rw [saved] at unsaved
  cases unsaved

/-- No opener is wanted for a draft that has a conversation. -/
theorem settled_of_content (content : c.store.draft.hasContent = true) : c.Settled := by
  intro wanted
  obtain ⟨-, empty, -, -⟩ := wantsOpener_iff.mp wanted
  rw [content] at empty
  cases empty

/-- Where no opener comes to be wanted, and the one on its way stays, all stays settled. -/
theorem Settled.frame (settled : c.Settled)
    (wanted : c'.wantsOpener = true → c.wantsOpener = true)
    (key : c'.store.draft.key = c.store.draft.key) (opener : c'.opener = c.opener)
    (epoch : c'.epoch = c.epoch) : c'.Settled := by
  intro wants
  obtain ⟨p, waited, same, mine⟩ := awaitsOpener_iff.mp (settled (wanted wants))
  exact awaitsOpener_iff.mpr ⟨p, by rwa [opener], by rwa [epoch], by rwa [key]⟩

/-- A message makes no opener wanted. -/
theorem wantsOpener_of_append {place : Selection} {message : Message}
    (store : c'.store = c.store.append place message)
    (initialized : c'.initialized = c.initialized) (wanted : c'.wantsOpener = true) :
    c.wantsOpener = true := by
  obtain ⟨viewed, empty, unsaved, unfetched⟩ := wantsOpener_iff.mp wanted
  simp only [store, initialized, Store.selection_append, Store.hasSaved_append,
    Store.draft_key_append] at viewed empty unsaved unfetched
  refine wantsOpener_iff.mpr ⟨viewed, ?_, unsaved, unfetched⟩
  rw [Bool.eq_false_iff] at empty ⊢
  intro content
  exact empty (hasContent_of_isPrefix (Store.draft_isPrefix_append _ _ _) content)

theorem Settled.completeOpener (settled : c.Settled) {p : PendingOpener}
    (waited : c.opener = some p) (outcome : Outcome) : (c.completeOpener p outcome).1.Settled := by
  by_cases wanted : c.stillWants p = true
  · rw [completeOpener_of_wanted wanted]
    exact settled_of_content
      (hasContent_append_assistant c.store.draft.messages (openerText outcome))
  · rw [completeOpener_of_unwanted wanted]
    intro wants
    -- What would be wanted now was wanted before, and then this opener had its place.
    have before : c.wantsOpener = true := wants
    obtain ⟨q, mine, epoch, key⟩ := awaitsOpener_iff.mp (settled before)
    cases waited.symm.trans mine
    exact absurd (stillWants_iff.mpr ⟨epoch, key.symm, before⟩) wanted

theorem Settled.completeTurn (settled : c.Settled) (p : PendingTurn) (outcome : Outcome) :
    (c.completeTurn p outcome).1.Settled := by
  have stored := c.completeTurn_store p outcome
  obtain ⟨store, axes, error, frame⟩ := c.completeTurn_frame p outcome
  rw [frame] at stored ⊢
  cases meant : p.target with
  | none =>
      rw [meant] at stored
      subst stored
      exact settled
  | some target =>
      rw [meant] at stored
      subst stored
      exact settled.frame (wantsOpener_of_append rfl rfl) (Store.draft_key_append _ _ _) rfl rfl

/-- Every operation leaves all settled. -/
theorem Settled.after (settled : c.Settled) (op : Operation) : (c.after op).Settled := by
  cases op with
  | ensureOpener => exact c.settled_ensureOpener
  | navigate dest stamp =>
      simp only [Controller.after, perform, navigate]
      split
      · exact settled
      · split
        · rename_i saved
          exact settled_of_saved saved
        · exact settled_ensureOpener _
  | setInput text => exact settled
  | submit =>
      simp only [Controller.after, perform, submit]
      split
      · exact settled.frame (wantsOpener_of_append rfl rfl) (Store.draft_key_append _ _ _) rfl rfl
      · exact settled
  | complete ticket outcome =>
      simp only [Controller.after, perform]
      rcases c.complete_cases ticket outcome with
        ⟨p, waited, -, result⟩ | ⟨p, -, -, result⟩ | result
      · rw [result]
        exact settled.completeOpener waited outcome
      · rw [result]
        exact settled.completeTurn p outcome
      · rw [result]
        exact settled
  | save stamp =>
      simp only [Controller.after, perform, save]
      split
      · exact settled_of_saved (c.store.hasSaved_promote stamp)
      · exact settled
  | select selection => exact settled_ensureOpener _
  | delete id => exact settled_ensureOpener _
  | rename id title =>
      refine settled.frame ?_ rfl rfl rfl
      intro wanted
      obtain ⟨viewed, empty, unsaved, unfetched⟩ := wantsOpener_iff.mp wanted
      simp only [Controller.after, perform, rename, Store.selection_rename,
        Store.hasSaved_rename] at viewed unsaved
      exact wantsOpener_iff.mpr ⟨viewed, empty, unsaved, unfetched⟩

/-! ### An opener that is on its way -/

/-- Whether an operation overtakes the opener that is on its way: the draft is left for another
tool or axis, or the user speaks first in it. -/
def overtakes (c : Controller) : Operation → Bool
  | .navigate dest _ => dest.normalise ≠ c.navigation
  | .submit => c.canSubmit && c.store.selection = .current
  | _ => false

/-- An opener on its way to the draft that there is, which is as empty as it was. -/
structure Due (c : Controller) (p : PendingOpener) : Prop where
  waited : c.opener = some p
  epoch : p.epoch = c.epoch
  key : c.store.draft.key = p.key
  empty : c.store.draft.hasContent = false
  unsaved : c.store.hasSaved p.key = false
  unfetched : p.key ∉ c.initialized

namespace Due

variable {p : PendingOpener}

/-- An opener that is due has its place exactly if the draft is on view. -/
theorem stillWants_iff_selection (due : c.Due p) :
    c.stillWants p = true ↔ c.store.selection = .current := by
  rw [stillWants_iff, wantsOpener_iff, due.key]
  constructor
  · rintro ⟨-, -, viewed, -⟩
    exact viewed
  · intro viewed
    exact ⟨due.epoch, rfl, viewed, due.empty, due.unsaved, due.unfetched⟩

/-- An opener that is asked for is due. -/
theorem of_sent {o : Outbound} (sent : c.sent op = some o) (kind : o.kind = .opener) :
    (c.after op).Due ⟨o.ticket, (c.after op).store.draft.key, (c.after op).epoch⟩ := by
  obtain ⟨wanted, waited⟩ := opener_of_sent sent kind
  obtain ⟨-, empty, unsaved, unfetched⟩ := wantsOpener_iff.mp wanted
  exact ⟨waited, rfl, rfl, empty, unsaved, unfetched⟩

/-- No other opener is asked for while one is due. -/
theorem ensureOpener (due : c.Due p) : c.ensureOpener.1.Due p := by
  have awaits : c.awaitsOpener = true :=
    awaitsOpener_iff.mpr ⟨p, due.waited, due.epoch, due.key.symm⟩
  have settled : c.Settled := fun _ => awaits
  rw [settled.ensureOpener_eq]
  exact due

/-- A message that comes to another conversation leaves an opener due. -/
theorem append (due : c.Due p) {place : Selection} {message : Message} (other : place ≠ .current)
    (store : c'.store = c.store.append place message)
    (initialized : c'.initialized = c.initialized) (opener : c'.opener = c.opener)
    (epoch : c'.epoch = c.epoch) : c'.Due p := by
  have draft : c'.store.draft = c.store.draft := by
    rw [store]
    cases place with
    | current => exact absurd rfl other
    | saved id => rfl
  constructor
  · rw [opener, due.waited]
  · rw [epoch, due.epoch]
  · rw [draft, due.key]
  · rw [draft, due.empty]
  · rw [store, Store.hasSaved_append, due.unsaved]
  · rw [initialized]
    exact due.unfetched

/-- No reply comes to a draft that an opener is due in. -/
theorem completeTurn (due : c.Due p) (coherent : c.Coherent) {q : PendingTurn}
    (waited : q ∈ c.sending) (outcome : Outcome) : (c.completeTurn q outcome).1.Due p := by
  have stored := c.completeTurn_store q outcome
  obtain ⟨store, axes, error, frame⟩ := c.completeTurn_frame q outcome
  rw [frame] at stored ⊢
  cases meant : q.target with
  | none =>
      rw [meant] at stored
      subst stored
      exact ⟨due.waited, due.epoch, due.key, due.empty, due.unsaved, due.unfetched⟩
  | some target =>
      rw [meant] at stored
      refine due.append ?_ stored rfl rfl rfl
      rintro rfl
      have content := coherent.turn q waited meant
      rw [due.empty] at content
      cases content

/-- An opener stays due until its outcome comes or something overtakes it. -/
theorem after (due : c.Due p) (coherent : c.Coherent) (ahead : c.overtakes op = false)
    (first : ∀ outcome, op ≠ .complete p.ticket outcome) : (c.after op).Due p := by
  cases op with
  | ensureOpener => exact due.ensureOpener
  | navigate dest stamp =>
      have stays : dest.normalise = c.navigation := by simpa [overtakes] using ahead
      rw [after_navigate_of_stays stamp stays]
      exact due
  | setInput text => exact ⟨due.waited, due.epoch, due.key, due.empty, due.unsaved, due.unfetched⟩
  | submit =>
      simp only [Controller.after, perform, submit]
      split
      · rename_i can
        refine due.append ?_ rfl rfl rfl rfl
        intro viewed
        simp [overtakes, can, viewed] at ahead
      · exact due
  | complete ticket outcome =>
      simp only [Controller.after, perform]
      rcases c.complete_cases ticket outcome with
        ⟨q, waited, same, -⟩ | ⟨q, waited, -, result⟩ | result
      · cases due.waited.symm.trans waited
        exact absurd (congrArg (Operation.complete · outcome) same.symm) (first outcome)
      · rw [result]
        exact due.completeTurn coherent waited outcome
      · rw [result]
        exact due
  | save stamp =>
      have empty : ¬ c.store.draft.hasContent = true := by simp [due.empty]
      simp only [Controller.after, perform, save, if_neg empty]
      exact due
  | select selection =>
      apply Due.ensureOpener
      exact ⟨due.waited, due.epoch, due.key, due.empty, due.unsaved, due.unfetched⟩
  | delete id =>
      apply Due.ensureOpener
      exact ⟨due.waited, due.epoch, due.key, due.empty, Store.hasSaved_delete due.unsaved id,
        due.unfetched⟩
  | rename id title =>
      refine ⟨due.waited, due.epoch, due.key, due.empty, ?_, due.unfetched⟩
      exact (c.store.hasSaved_rename id title p.key).trans due.unsaved

/-- The outcome of an opener that is due is applied exactly if the draft is on view, and comes to
the draft then. -/
theorem complete (due : c.Due p) (outcome : Outcome) :
    ((c.complete p.ticket outcome).2.applied = true ↔ c.store.selection = .current) ∧
      ((c.complete p.ticket outcome).2.applied = true → (c.complete p.ticket outcome).1.store =
        c.store.append .current (.assistant (openerText outcome))) ∧
      ((c.complete p.ticket outcome).2.applied = false →
        (c.complete p.ticket outcome).1.store = c.store) := by
  rw [complete_of_opener due.waited rfl]
  by_cases viewed : c.store.selection = .current
  · rw [completeOpener_of_wanted (due.stillWants_iff_selection.mpr viewed)]
    simp [viewed]
  · have unwanted : ¬ c.stillWants p = true := mt due.stillWants_iff_selection.mp viewed
    rw [completeOpener_of_unwanted unwanted]
    simp [viewed, Completion.discarded]

end Due

/-! ### An opener that comes too late -/

/-- If an opener is waited for under a ticket, it is of an earlier draft, or the draft has a
conversation by now. -/
structure Missed (c : Controller) (ticket : Ticket) : Prop where
  issued : ticket.number ≤ c.lastTicket
  late : ∀ p ∈ c.opener, p.ticket = ticket →
    p.epoch < c.epoch ∨ c.store.draft.hasContent = true

variable {ticket : Ticket}

/-- An opener waited for under a ticket issued before was waited for before. -/
theorem opener_before {p : PendingOpener} (issued : ticket.number ≤ c.lastTicket)
    (waited : p ∈ (c.after op).opener) (same : p.ticket = ticket) : p ∈ c.opener := by
  rcases ticket_of_opener_after waited with before | new
  · exact before
  · rw [← same, new] at issued
    simp only [nextTicket] at issued
    omega

/-- What was missed is missed for good. -/
theorem Missed.after (missed : c.Missed ticket) (coherent : c.Coherent) (op : Operation) :
    (c.after op).Missed ticket := by
  refine ⟨Nat.le_trans missed.issued (c.lastTicket_le_after op), ?_⟩
  intro p waited same
  have before : p ∈ c.opener := opener_before missed.issued waited same
  rcases coherent.past_or_still op before with past | ⟨still, epoch⟩
  · exact Or.inl past
  · rw [epoch]
    rcases missed.late p before same with old | content
    · exact Or.inl old
    · exact Or.inr (hasContent_after content still)

/-- What overtakes an opener while the draft stays is a message of the user in it. -/
theorem hasContent_of_overtaken (still : c.replacesDraft op = false)
    (behind : c.overtakes op = true) : (c.after op).store.draft.hasContent = true := by
  cases op with
  | navigate dest stamp =>
      have stays : c.overtakes (.navigate dest stamp) = false := still
      rw [stays] at behind
      cases behind
  | submit =>
      simp only [overtakes, Bool.and_eq_true, decide_eq_true_eq] at behind
      obtain ⟨can, viewed⟩ := behind
      simp only [Controller.after, perform, submit, if_pos can, viewed]
      exact hasContent_append_user c.store.draft.messages c.input
  | _ => cases behind

/-- An opener that something overtakes is missed. -/
theorem Due.missed {p : PendingOpener} (due : c.Due p) (issued : p.ticket.number ≤ c.lastTicket)
    (behind : c.overtakes op = true) : (c.after op).Missed p.ticket := by
  refine ⟨Nat.le_trans issued (c.lastTicket_le_after op), ?_⟩
  intro q waited same
  have before : q ∈ c.opener := opener_before issued waited same
  cases due.waited.symm.trans before
  have epoch := c.epoch_after op
  cases still : c.replacesDraft op with
  | true =>
      have same := due.epoch
      simp only [still, if_true] at epoch
      left
      omega
  | false => exact Or.inr (hasContent_of_overtaken still behind)

/-- An opener that was missed is dropped. -/
theorem Missed.complete (missed : c.Missed ticket) (turn : ∀ p ∈ c.sending, p.ticket ≠ ticket)
    (outcome : Outcome) :
    (c.complete ticket outcome).2.applied = false ∧
      (c.complete ticket outcome).1.store = c.store := by
  rcases c.complete_cases ticket outcome with
    ⟨p, waited, same, result⟩ | ⟨p, waited, same, -⟩ | result
  · have unwanted : ¬ c.stillWants p = true := by
      intro wanted
      obtain ⟨now, -, wants⟩ := stillWants_iff.mp wanted
      rcases missed.late p waited same with old | content
      · omega
      · rw [(wantsOpener_iff.mp wants).2.1] at content
        cases content
    rw [result, completeOpener_of_unwanted unwanted]
    exact ⟨rfl, rfl⟩
  · exact absurd same (turn p waited)
  · rw [result]
    exact ⟨rfl, rfl⟩

end Controller

namespace Trail

/-- **The panel never stays silent.** Once an opener was asked for, and whatever happens from then
on, asking again changes nothing: whenever the draft is on view and empty and nothing is saved for
its key, an opener for that key is on its way, for the draft as it is. -/
theorem panel_never_stuck (tool : Tool) (axis : Option String) (ops : List Operation) :
    let now := ((start tool axis).run (.ensureOpener :: ops)).controller
    now.ensureOpener = (now, none) ∧
      (now.store.selection = .current → now.store.draft.hasContent = false →
        now.store.hasSaved now.store.draft.key = false →
        ∃ p ∈ now.opener, p.key = now.store.draft.key ∧ p.epoch = now.epoch) := by
  intro now
  have settled : now.Settled :=
    run_keeps (P := Controller.Settled) (fun _ op settled => settled.after op)
      (t := (start tool axis).next .ensureOpener) (Controller.settled_ensureOpener _) ops
  refine ⟨settled.ensureOpener_eq, ?_⟩
  intro viewed empty unsaved
  have coherent : now.Coherent := coherent_run tool axis (.ensureOpener :: ops)
  have unfetched : now.store.draft.key ∉ now.initialized := by
    rw [coherent.initialized_of_empty empty]
    exact List.not_mem_nil
  obtain ⟨p, waited, epoch, key⟩ := Controller.awaitsOpener_iff.mp
    (settled (Controller.wantsOpener_iff.mpr ⟨viewed, empty, unsaved, unfetched⟩))
  exact ⟨p, waited, key, epoch⟩

/-- The only saved session is deleted while the empty draft after it is on view: a new opener is on
its way. -/
theorem panel_never_stuck_after_deletion :
    let ops := [.complete ⟨1⟩ (.ok ⟨"Hello.", none⟩), .save ⟨⟨1⟩, ⟨0, 0⟩⟩, .delete ⟨1⟩]
    let now := ((start .resulting none).run (.ensureOpener :: ops)).controller
    now.store.selection = .current ∧ now.store.draft.hasContent = false ∧
      now.store.hasSaved now.store.draft.key = false ∧
      ∃ p ∈ now.opener, p.key = now.store.draft.key ∧ p.epoch = now.epoch := by
  intro ops now
  have viewed : now.store.selection = .current := by decide
  have empty : now.store.draft.hasContent = false := by decide
  have unsaved : now.store.hasSaved now.store.draft.key = false := by decide
  exact ⟨viewed, empty, unsaved, (panel_never_stuck .resulting none ops).2 viewed empty unsaved⟩

variable {t : Trail} {op : Operation} {ops : List Operation} {o : Outbound} {ticket : Ticket}

/-- Nothing along a run overtakes the opener that is on its way. -/
def Ahead (t : Trail) (ops : List Operation) : Prop :=
  t.Along (fun u op => u.controller.overtakes op = false) ops

instance (t : Trail) (ops : List Operation) : Decidable (t.Ahead ops) :=
  inferInstanceAs (Decidable (t.Along (fun u op => u.controller.overtakes op = false) ops))

theorem missed_run (missed : t.controller.Missed ticket) (coherent : t.controller.Coherent)
    (ops : List Operation) : (t.run ops).controller.Missed ticket :=
  run_keeps_coherent (P := fun c => c.Missed ticket)
    (fun _ op coherent missed => missed.after coherent op) coherent missed ops

/-- Until its outcome comes, an opener stays due as long as nothing overtakes it, and is missed once
something did. -/
theorem due_or_missed {p : PendingOpener} (due : t.controller.Due p)
    (coherent : t.controller.Coherent) (issued : p.ticket.number ≤ t.controller.lastTicket)
    (first : ∀ outcome, .complete p.ticket outcome ∉ ops) :
    t.Ahead ops ∧ (t.run ops).controller.Due p ∨
      ¬ t.Ahead ops ∧ (t.run ops).controller.Missed p.ticket := by
  induction ops generalizing t with
  | nil => exact Or.inl ⟨trivial, due⟩
  | cons op ops ih =>
      have here : ∀ outcome, op ≠ .complete p.ticket outcome := by
        rintro outcome rfl
        exact first outcome List.mem_cons_self
      have later : ∀ outcome, .complete p.ticket outcome ∉ ops := fun outcome member =>
        first outcome (List.mem_cons_of_mem _ member)
      have coherent' : (t.next op).controller.Coherent := coherent.after op
      cases overtaken : t.controller.overtakes op with
      | true =>
          right
          refine ⟨?_, missed_run (due.missed issued overtaken) coherent' ops⟩
          rintro ⟨ahead, -⟩
          rw [overtaken] at ahead
          cases ahead
      | false =>
          have issued' : p.ticket.number ≤ (t.next op).controller.lastTicket :=
            Nat.le_trans issued (t.controller.lastTicket_le_after op)
          rcases ih (due.after coherent overtaken here) coherent' issued' later with
            ⟨ahead, still⟩ | ⟨behind, missed⟩
          · exact Or.inl ⟨⟨overtaken, ahead⟩, still⟩
          · exact Or.inr ⟨fun ahead => behind ahead.2, missed⟩

/-- **Openers come in time or not at all.** When the outcome of an opener comes for the first time,
it is applied exactly if nothing overtook the opener since it was asked for, and the draft is on
view. Then the reply, or the apology for it, comes to the end of the draft, which is still that of
the key the opener was asked for, and to no other conversation; and otherwise no conversation
changes, wherever the dialogue went and came back to in between. -/
theorem opener_applied_iff {tool : Tool} {axis : Option String} {before : List Operation}
    (sent : ((start tool axis).run before).controller.sent op = some o) (opener : o.kind = .opener)
    (first : ∀ outcome, .complete o.ticket outcome ∉ ops) (outcome : Outcome) :
    let asked := ((start tool axis).run before).next op
    let now := (asked.run ops).controller
    let result := now.complete o.ticket outcome
    let text := match outcome with
      | .ok reply => reply.text
      | .error _ => openerApology
    (result.2.applied = true ↔ asked.Ahead ops ∧ now.store.selection = .current) ∧
      (result.2.applied = true →
        (∃ p ∈ asked.controller.opener, p.ticket = o.ticket ∧ now.store.draft.key = p.key) ∧
          now.store.draft.key = asked.controller.store.draft.key ∧
          result.1.store = now.store.append .current ⟨.assistant, text⟩ ∧
          ∀ s, result.1.store.messages? s =
            if s = .current then some (now.store.draft.messages ++ [⟨.assistant, text⟩])
            else now.store.messages? s) ∧
      (result.2.applied = false → result.1.store = now.store) := by
  intro asked now result text
  have coherent : asked.controller.Coherent := (coherent_run tool axis before).after op
  have due := Controller.Due.of_sent sent opener
  have issued : o.ticket.number ≤ asked.controller.lastTicket := by
    have requested : o ∈ (start tool axis).requests (before ++ [op]) :=
      mem_requests_concat.mpr (Or.inr sent)
    have counted := issued_of_mem requested
    rwa [run_concat] at counted
  have turn : ∀ p ∈ now.sending, p.ticket ≠ o.ticket := by
    have requested : o ∈ (start tool axis).requests (before ++ op :: ops) := by
      rw [requests, collect_append, collect, sent]
      simp
    have whole : now = ((start tool axis).run (before ++ op :: ops)).controller := by
      rw [run_append, run_cons]
    rw [whole]
    exact opener_not_turn requested opener
  rcases due_or_missed (t := asked) due coherent issued first with ⟨ahead, due'⟩ | ⟨behind, missed⟩
  · obtain ⟨applied, came, stayed⟩ := due'.complete outcome
    refine ⟨applied.trans (iff_and_self.mpr fun _ => ahead), ?_, stayed⟩
    intro applies
    have came : result.1.store = now.store.append .current ⟨.assistant, text⟩ := came applies
    refine ⟨⟨_, due.waited, rfl, due'.key⟩, due'.key, came, ?_⟩
    rw [came]
    exact Store.messages?_append_of_read rfl _
  · obtain ⟨dropped, same⟩ := missed.complete turn outcome
    refine ⟨⟨?_, ?_⟩, ?_, fun _ => same⟩
    · intro applied
      rw [dropped] at applied
      cases applied
    · rintro ⟨ahead, -⟩
      exact absurd ahead behind
    · intro applied
      rw [dropped] at applied
      cases applied

/-- A detour to a saved session, with a message there, does not cost an opener its place; leaving
for another tool and coming back does. -/
theorem opener_applied_after_detour :
    let before := [.setInput "What now?", .submit, .complete ⟨1⟩ (.ok ⟨"Wait.", none⟩),
      .save ⟨⟨1⟩, ⟨0, 0⟩⟩]
    let op := .navigate ⟨.resulting, none⟩ ⟨⟨2⟩, ⟨0, 0⟩⟩
    let o : Outbound := ⟨⟨2⟩, .opener, .opener .resulting "current"⟩
    let hello : Outcome := .ok ⟨"Hello.", none⟩
    let asked := ((start .debrief none).run before).next op
    let detour := [.select (.saved ⟨1⟩), .setInput "And then?", .submit, .select .current]
    let back := [.navigate ⟨.debrief, none⟩ ⟨⟨2⟩, ⟨0, 0⟩⟩, .navigate ⟨.resulting, none⟩ ⟨⟨2⟩, ⟨0, 0⟩⟩]
    ((start .debrief none).run before).controller.sent op = some o ∧ o.kind = .opener ∧
      (∀ outcome, .complete o.ticket outcome ∉ detour) ∧
      (∀ outcome, .complete o.ticket outcome ∉ back) ∧
      ((asked.run detour).controller.complete o.ticket hello).2.applied = true ∧
      ((asked.run detour).controller.complete o.ticket hello).1.store.messages? .current =
        some [.assistant "Hello."] ∧
      (asked.run back).controller.store.selection = .current ∧
      ¬ ((asked.run back).controller.complete o.ticket hello).2.applied = true := by
  intro before op o hello asked detour back
  have sent : ((start .debrief none).run before).controller.sent op = some o := by decide
  have first : ∀ outcome, .complete o.ticket outcome ∉ detour := by simp [detour]
  have first' : ∀ outcome, .complete o.ticket outcome ∉ back := by simp [back]
  have ahead : asked.Ahead detour := by decide
  have viewed : (asked.run detour).controller.store.selection = .current := by decide
  have behind : ¬ asked.Ahead back := by decide
  have viewed' : (asked.run back).controller.store.selection = .current := by decide
  have fresh : (asked.run detour).controller.store.draft.messages = [] := by decide
  obtain ⟨arrives, comes, -⟩ := opener_applied_iff sent rfl first hello
  obtain ⟨arrives', -, -⟩ := opener_applied_iff sent rfl first' hello
  have applied := arrives.mpr ⟨ahead, viewed⟩
  obtain ⟨-, -, -, messages⟩ := comes applied
  refine ⟨sent, rfl, first, first', ?_, ?_, viewed', ?_⟩
  · simp only [asked]
    exact applied
  · simp only [asked]
    rw [messages .current, if_pos rfl, fresh]
    rfl
  · simp only [asked]
    intro applied
    exact behind (arrives'.mp applied).1

end Trail
end Counsel.Dialogue
