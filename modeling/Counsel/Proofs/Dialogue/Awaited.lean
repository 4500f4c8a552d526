import Counsel.Proofs.Dialogue.Identity

/-!
The turn that is waited for, and the conversation it was asked in.

`Trail.follow` says where a conversation is after a run; it looks at what is saved and deleted, and
not at what is waited for. `Trail.Awaits` ties the two: as long as the reply to a turn is waited
for, it is meant for the place where the conversation of the turn is by then, and that conversation
has not changed since the turn was asked. If the conversation is gone, the reply is meant for
nothing that is there, or ever will be.

* `Awaits.submit`: it holds once a turn is sent.
* `Awaits.next`: every operation keeps it. Openers keep off the conversation because it is not
  empty; other turns do because only one is waited for; new sessions do because their identifiers
  are new.
* `Awaits.run`: every run keeps it.
* `Reachable.awaits`: every turn that is waited for has such a conversation.
-/

namespace Counsel.Dialogue

namespace Controller

variable {c : Controller} {op : Operation} {place : Selection}

/-- A conversation stays where it is if the operation neither deletes nor replaces it. -/
theorem follow_of_still (still : c.replacesDraft op = false) (kept : ∀ id, op ≠ .delete id) :
    c.follow op place = some place := by
  cases place with
  | current => simp [follow, still]
  | saved id =>
      cases op with
      | delete gone => exact absurd rfl (kept gone)
      | _ => rfl

theorem follow_current :
    c.follow op .current =
      if c.replacesDraft op then (c.created op).map (.saved ·.id) else some .current := rfl

theorem follow_saved_of_kept {id : SessionId} (kept : ∀ gone, op ≠ .delete gone) :
    c.follow op (.saved id) = some (.saved id) := by
  cases op with
  | delete gone => exact absurd rfl (kept gone)
  | _ => rfl

end Controller

namespace Trail

/-- Where a conversation is after operations one after another, if it is still there. -/
def follow : Trail → List Operation → Selection → Option Selection
  | _, [], place => some place
  | t, op :: ops, place => (t.controller.follow op place).bind ((t.next op).follow ops)

/-- What a reply is meant for, when the conversation it belongs to has `messages` and is at a
place, or is gone. -/
inductive Meant (t : Trail) (messages : List Message) :
    Option Selection → Option Selection → Prop where
  | here {s : Selection} (read : t.controller.store.messages? s = some messages) :
      Meant t messages (some s) (some s)
  | dropped : Meant t messages none none
  /-- The session was deleted. Its identifier was given, so no session gets it again. -/
  | gone {id : SessionId} (given : id ∈ t.given)
      (read : t.controller.store.messages? (.saved id) = none) :
      Meant t messages (some (.saved id)) none

/-- The reply to a turn, if it is waited for, is meant for the conversation the turn was asked in,
which has `messages` and is at `place` by now. -/
structure Awaits (t : Trail) (ticket : Ticket) (place : Option Selection)
    (messages : List Message) : Prop where
  issued : ticket.number ≤ t.controller.lastTicket
  notOpener : ∀ p ∈ t.controller.opener, p.ticket ≠ ticket
  known : ∀ id, place = some (.saved id) → id ∈ t.given
  meant : ∀ p ∈ t.controller.sending, p.ticket = ticket → t.Meant messages p.target place

variable {t : Trail} {op : Operation} {ops : List Operation} {messages : List Message}
  {target place : Option Selection} {ticket : Ticket}

/-- What a reply is meant for has the messages of its conversation, if it is there. -/
theorem Meant.messages_eq {s : Selection} {found : List Message}
    (meant : t.Meant messages (some s) place)
    (read : t.controller.store.messages? s = some found) : found = messages := by
  cases meant with
  | here asked => exact Option.some.inj (read.symm.trans asked)
  | gone _ lost => cases lost.symm.trans read

/-- Only the messages of its target matter to where a reply is meant. -/
theorem Meant.congr (meant : t.Meant messages target place)
    (same : ∀ s, target = some s →
      (t.next op).controller.store.messages? s = t.controller.store.messages? s) :
    (t.next op).Meant messages target place := by
  cases meant with
  | here read => exact .here (by rw [same _ rfl, read])
  | dropped => exact .dropped
  | gone given read => exact .gone (given_next given) (by rw [same _ rfl, read])

/-- A reply follows its conversation when a session is deleted. -/
theorem Meant.delete {id : SessionId} (meant : t.Meant messages target place)
    (known : ∀ id, place = some (.saved id) → id ∈ t.given)
    (store : (t.next (.delete id)).controller.store = t.controller.store.delete id) :
    (t.next (.delete id)).Meant messages target
      (place.bind (t.controller.follow (.delete id))) := by
  have left : ∀ s, (t.next (.delete id)).controller.store.messages? s =
      if s = .saved id then none else t.controller.store.messages? s := fun s => by
    rw [store, Store.messages?_delete]
  cases meant with
  | dropped => exact .dropped
  | gone given read =>
      refine .gone (given_next given) ?_
      rw [left]
      split
      · rfl
      · exact read
  | @here s read =>
      cases s with
      | current => exact .here (by rw [left]; exact read)
      | saved other =>
          by_cases same : other = id
          · simp only [Option.bind_some, Controller.follow, if_pos same]
            exact .gone (given_next (known other rfl)) (by rw [left, same, if_pos rfl])
          · simp only [Option.bind_some, Controller.follow, if_neg same]
            exact .here (by rw [left, if_neg (by simpa using same), read])

/-- A reply to the draft follows it into the session that the draft is saved as. -/
theorem Meant.leave {dest : Navigation} {stamp : Stamp} (meant : t.Meant messages target place)
    (known : ∀ id, place = some (.saved id) → id ∈ t.given)
    (fresh : t.Fresh (.navigate dest stamp)) (moves : dest.normalise ≠ t.controller.navigation)
    (created : t.controller.created (.navigate dest stamp) =
      some (t.controller.store.sessionOfDraft stamp))
    (saved : (t.next (.navigate dest stamp)).controller.store.saved =
      t.controller.store.sessionOfDraft stamp :: t.controller.store.saved) :
    (t.next (.navigate dest stamp)).Meant messages
      (if target = some .current then some (.saved stamp.id) else target)
      (place.bind (t.controller.follow (.navigate dest stamp))) := by
  have fresh : stamp.id ∉ t.given := fresh (t.controller.store.sessionOfDraft stamp) created
  have left : ∀ id ∈ t.given, (t.next (.navigate dest stamp)).controller.store.messages?
      (.saved id) = t.controller.store.messages? (.saved id) := fun id given =>
    Store.messages?_of_created saved fun same => by
      have same : stamp.id = id := same
      exact fresh (same ▸ given)
  cases meant with
  | dropped => exact .dropped
  | @gone id given read => exact .gone (given_next given) (by rw [left id given, read])
  | @here s read =>
      cases s with
      | current =>
          have goes : t.controller.follow (.navigate dest stamp) .current =
              some (.saved stamp.id) := by
            simp [Controller.follow, Controller.replacesDraft, moves, created,
              Store.sessionOfDraft]
          rw [Option.bind_some, goes, if_pos rfl]
          refine .here ?_
          have asked : t.controller.store.draft.messages = messages := by
            simpa [Store.messages?] using read
          simp [Store.messages?, Store.get?, saved, Store.sessionOfDraft, asked]
      | saved id =>
          rw [Option.bind_some, Controller.follow_saved_of_kept (by simp), if_neg (by simp)]
          exact .here (by rw [left id (known id rfl), read])

/-- A reply to the draft is given up with the draft. -/
theorem Meant.abandon {dest : Navigation} {stamp : Stamp} (meant : t.Meant messages target place)
    (moves : dest.normalise ≠ t.controller.navigation)
    (created : t.controller.created (.navigate dest stamp) = none)
    (saved : (t.next (.navigate dest stamp)).controller.store.saved =
      t.controller.store.saved) :
    (t.next (.navigate dest stamp)).Meant messages (if target = some .current then none else target)
      (place.bind (t.controller.follow (.navigate dest stamp))) := by
  have left : ∀ id, (t.next (.navigate dest stamp)).controller.store.messages? (.saved id) =
      t.controller.store.messages? (.saved id) := fun id => by
    simp only [Store.messages?, Store.get?, saved]
  cases meant with
  | dropped => exact .dropped
  | @gone id given read => exact .gone (given_next given) (by rw [left, read])
  | @here s read =>
      cases s with
      | current =>
          have lost : t.controller.follow (.navigate dest stamp) .current = none := by
            simp [Controller.follow, Controller.replacesDraft, moves, created]
          rw [Option.bind_some, lost, if_pos rfl]
          exact .dropped
      | saved id =>
          rw [Option.bind_some, Controller.follow_saved_of_kept (by simp), if_neg (by simp)]
          exact .here (by rw [left, read])

/-- An opener that comes to a draft without a conversation comes to none that a reply is meant
for. -/
theorem Meant.greet {outcome : Outcome} {text : String} (meant : t.Meant messages target place)
    (content : hasContent messages = true) (empty : t.controller.store.draft.hasContent = false)
    (store : (t.next (.complete ticket outcome)).controller.store =
      t.controller.store.append .current (.assistant text)) :
    (t.next (.complete ticket outcome)).Meant messages target place := by
  refine meant.congr fun s aimed => ?_
  rw [store, Store.messages?_append]
  split
  · rename_i current
    subst current
    cases meant with
    | here read =>
        cases aimed
        have asked : t.controller.store.draft.messages = messages := by
          simpa [Store.messages?] using read
        rw [Draft.hasContent, asked, content] at empty
        cases empty
    | dropped => cases aimed
    | gone => cases aimed
  · rfl

/-- A conversation that an operation does not touch is followed to where it was. -/
theorem bind_follow_of_still (still : t.controller.replacesDraft op = false)
    (kept : ∀ id, op ≠ .delete id) : place.bind (t.controller.follow op) = place := by
  cases place with
  | none => rfl
  | some s => exact Controller.follow_of_still still kept

/-- Whatever an operation does, a reply that is still waited for follows its conversation. -/
theorem Awaits.meant_next (w : t.Awaits ticket place messages)
    (content : hasContent messages = true) (fresh : t.Fresh op) :
    ∀ p ∈ (t.next op).controller.sending, p.ticket = ticket →
      (t.next op).Meant messages p.target (place.bind (t.controller.follow op)) := by
  intro p waited same
  cases t.controller.change op with
  | keep still kept draft saved sending =>
      rw [Trail.next, sending] at waited
      rw [bind_follow_of_still still kept]
      exact (w.meant p waited same).congr fun s _ => Store.messages?_congr draft saved s
  | delete store sending =>
      rw [Trail.next, sending] at waited
      exact (w.meant p waited same).delete w.known store
  | rename store sending =>
      rw [Trail.next, sending] at waited
      rw [bind_follow_of_still rfl (by simp)]
      refine (w.meant p waited same).congr fun s _ => ?_
      rw [Trail.next, store, Store.messages?_rename]
  | ask _ _ _ sending =>
      rw [Trail.next, sending] at waited
      cases waited
      have issued := w.issued
      rw [← same] at issued
      simp only [Controller.nextTicket] at issued
      omega
  | greet _ empty store sending =>
      rw [Trail.next, sending] at waited
      rw [bind_follow_of_still rfl (by simp)]
      exact (w.meant p waited same).greet content empty store
  | answer _ _ _ sending =>
      rw [Trail.next, sending] at waited
      cases waited
  | drop _ _ _ sending =>
      rw [Trail.next, sending] at waited
      cases waited
  | save _ _ _ sending =>
      rw [Trail.next, sending] at waited
      cases waited
  | leave moves full unsaved _ saved sending =>
      rw [Trail.next, sending] at waited
      obtain ⟨old, before, rfl⟩ := Option.map_eq_some_iff.mp waited
      rw [PendingTurn.redirect_ticket] at same
      rw [PendingTurn.redirect_target]
      exact (w.meant old before same).leave w.known fresh moves
        (Controller.created_of_leave moves full unsaved) saved
  | abandon moves spare _ saved sending =>
      rw [Trail.next, sending] at waited
      obtain ⟨old, before, rfl⟩ := Option.map_eq_some_iff.mp waited
      rw [PendingTurn.redirect_ticket] at same
      rw [PendingTurn.redirect_target]
      exact (w.meant old before same).abandon moves
        (Controller.created_of_abandon moves spare) saved

/-- The session that a reply is meant for, if it is there, has the messages of the conversation. -/
theorem Awaits.messages_of_saved (w : t.Awaits ticket place messages) {p : PendingTurn}
    {id : SessionId} {s : SavedSession} (waited : p ∈ t.controller.sending)
    (same : p.ticket = ticket) (meant : p.target = some (.saved id))
    (found : t.controller.store.get? id = some s) : s.messages = messages := by
  have aim := w.meant p waited same
  rw [meant] at aim
  have read : t.controller.store.messages? (.saved id) = some s.messages := by
    simp [Store.messages?, found]
  exact aim.messages_eq read

/-- Where a conversation goes, the identifier it has there was given. -/
theorem Awaits.known_next (w : t.Awaits ticket place messages) {id : SessionId}
    (there : place.bind (t.controller.follow op) = some (.saved id)) :
    id ∈ (t.next op).given := by
  obtain ⟨s, at_, goes⟩ := Option.bind_eq_some_iff.mp there
  cases s with
  | current =>
      rw [Controller.follow_current] at goes
      split at goes
      · obtain ⟨session, created, same⟩ := Option.map_eq_some_iff.mp goes
        cases same
        exact created_given created
      · cases goes
  | saved other =>
      have same : other = id := by
        cases op with
        | delete gone =>
            simp only [Controller.follow] at goes
            split at goes
            · cases goes
            · simpa using goes
        | _ => simpa [Controller.follow] using goes
      exact given_next (w.known id (same ▸ at_))

/-- Every operation keeps a turn that is waited for tied to its conversation. -/
theorem Awaits.next (w : t.Awaits ticket place messages) (content : hasContent messages = true)
    (fresh : t.Fresh op) :
    (t.next op).Awaits ticket (place.bind (t.controller.follow op)) messages where
  issued := Nat.le_trans w.issued (t.controller.lastTicket_le_after op)
  notOpener := by
    intro p waited same
    rcases Controller.ticket_of_opener_after waited with old | new
    · exact w.notOpener p old same
    · have issued := w.issued
      rw [← same, new] at issued
      simp only [Controller.nextTicket] at issued
      omega
  known := fun _ there => w.known_next there
  meant := w.meant_next content fresh

/-- Every run does. -/
theorem Awaits.run (w : t.Awaits ticket place messages) (content : hasContent messages = true)
    (fresh : t.Along Fresh ops) :
    (t.run ops).Awaits ticket (place.bind (t.follow ops)) messages := by
  induction ops generalizing t place with
  | nil => simpa [follow] using w
  | cons op ops ih =>
      have rest := ih (w.next content fresh.1) fresh.2
      rw [Option.bind_assoc] at rest
      exact rest

/-- A turn that is sent is waited for in the conversation on view, to which its message was
added. -/
theorem Awaits.submit {o : Outbound} (reached : t.Reachable)
    (sent : t.controller.sent .submit = some o) {prior : List Message}
    (read : t.controller.store.messages? t.controller.store.selection = some prior) :
    (t.next .submit).Awaits o.ticket (some t.controller.store.selection)
      (prior ++ [.user t.controller.input]) := by
  obtain ⟨can, rfl⟩ := Controller.sent_submit.mp sent
  have after : (t.next .submit).controller = t.controller.submit.1 := by
    simp only [Trail.next, Controller.after, Controller.perform]
  simp only [Controller.submit, if_pos can] at after
  refine ⟨?_, ?_, ?_, ?_⟩
  · rw [after]
    exact Nat.le_refl _
  · intro p waited same
    rw [after] at waited
    have issued := reached.opener_issued p waited
    rw [same] at issued
    simp only [Controller.nextTicket] at issued
    omega
  · intro id there
    have viewed : t.controller.store.selection = .saved id := by simpa using there
    rw [viewed] at read
    obtain ⟨s, found, -⟩ := Option.map_eq_some_iff.mp read
    exact given_next (reached.ids_given id (Store.mem_ids_of_get? found))
  · intro p waited _
    rw [after] at waited
    cases waited
    refine .here ?_
    rw [after, Store.messages?_append_of_read read, if_pos rfl]

/-- Every turn that is waited for is tied to a conversation, which ends in what was asked. -/
theorem Reachable.awaits (reached : t.Reachable) :
    ∀ p ∈ t.controller.sending, ∃ place prior text,
      t.Awaits p.ticket place (prior ++ [.user text]) := by
  induction reached with
  | opened tool axis => simp [start, Controller.new]
  | @step t op before fresh ih =>
      intro p waited
      rcases Controller.sending_after waited with ⟨q, earlier, same⟩ | ⟨rfl, o, sent, same⟩
      · obtain ⟨place, prior, text, w⟩ := ih q earlier
        rw [← same]
        exact ⟨_, prior, text, w.next (hasContent_append_user prior text) fresh⟩
      · obtain ⟨prior, read⟩ := t.controller.store.exists_messages?_selection
        rw [← same]
        exact ⟨_, prior, _, Awaits.submit before sent read⟩

end Trail
end Counsel.Dialogue
