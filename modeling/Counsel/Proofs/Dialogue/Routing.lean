import Counsel.Proofs.Dialogue.Awaited

/-!
Where replies go.

* `reply_routed`: in every run, a reply is added to the conversation that its turn was asked in,
  wherever that is by then, right after the message that it answers; or it changes no conversation.
  The request carried that conversation as it was when the turn was asked.
* `awaited_reply_arrives`: a reply that is waited for until it comes is added to its conversation
  exactly if that is still there. Two things besides deletion end a conversation or the wait:
  leaving a draft that is saved already, and saving a draft on the user's wish
  (`duplicate_draft_and_save_lose_replies`).
-/

namespace Counsel.Dialogue

namespace Controller

variable {c : Controller}

/-- The tool of a turn is the tool of the conversation on view. -/
theorem tool?_selection (c : Controller) :
    c.store.tool? c.store.selection = some c.activeTool := by
  have held := c.store.holds_selection
  unfold activeTool
  cases viewed : c.store.selection with
  | current => rfl
  | saved id =>
      rw [viewed] at held
      obtain ⟨s, found⟩ := Option.isSome_iff_exists.mp held
      simp [Store.tool?, found]

/-- An operation that brings no outcome for a ticket and saves nothing on the user's wish. -/
def spares (c : Controller) (ticket : Ticket) : Operation → Bool
  | .complete other _ => other ≠ ticket
  | .save _ => !c.store.draft.hasContent
  | _ => true

/-- Whether a turn is waited for under a ticket. -/
def waitsFor (c : Controller) (ticket : Ticket) : Prop := ∃ p ∈ c.sending, p.ticket = ticket

/-- A turn is waited for until its outcome comes, or until a draft is saved on the user's wish. -/
theorem waitsFor_after {ticket : Ticket} {op : Operation} (waits : c.waitsFor ticket)
    (spared : c.spares ticket op) : (c.after op).waitsFor ticket := by
  obtain ⟨p, waited, same⟩ := waits
  cases c.change op with
  | keep _ _ _ _ sending => exact ⟨p, by rwa [sending], same⟩
  | delete _ sending => exact ⟨p, by rwa [sending], same⟩
  | rename _ sending => exact ⟨p, by rwa [sending], same⟩
  | greet _ _ _ sending => exact ⟨p, by rwa [sending], same⟩
  | ask _ free _ _ => simp [free] at waited
  | answer known _ _ _ =>
      rw [known] at waited
      cases waited
      simp [spares, same] at spared
  | drop known _ _ _ =>
      rw [known] at waited
      cases waited
      simp [spares, same] at spared
  | save content _ _ _ => simp [spares, content] at spared
  | leave _ _ _ _ _ sending =>
      exact ⟨p.redirect _, by rw [sending]; exact Option.mem_map_of_mem _ waited, by simpa⟩
  | abandon _ _ _ _ sending =>
      exact ⟨p.redirect _, by rw [sending]; exact Option.mem_map_of_mem _ waited, by simpa⟩

/-- A turn that is sent is waited for. -/
theorem waitsFor_submit {o : Outbound} (sent : c.sent .submit = some o) :
    (c.after .submit).waitsFor o.ticket := by
  obtain ⟨can, rfl⟩ := sent_submit.mp sent
  simp [waitsFor, after, perform, submit, can]

end Controller

namespace Trail

variable {t : Trail} {ops : List Operation} {o : Outbound} {ticket : Ticket}
  {place : Option Selection} {messages : List Message}

/-- Under the ticket of a turn, an outcome is applied to the turn or to nothing. -/
theorem Awaits.complete_cases (w : t.Awaits ticket place messages) (outcome : Outcome) :
    (∃ p, p ∈ t.controller.sending ∧ p.ticket = ticket ∧
        t.controller.complete ticket outcome = t.controller.completeTurn p outcome) ∨
      t.controller.complete ticket outcome = (t.controller, .discarded) := by
  rcases t.controller.complete_cases ticket outcome with
    ⟨p, waited, same, -⟩ | ⟨p, waited, same, result⟩ | result
  · exact absurd same (w.notOpener p waited)
  · exact Or.inl ⟨p, waited, same, result⟩
  · exact Or.inr result

/-- An outcome that comes under the ticket of a turn adds one message where the conversation of the
turn is, or changes no conversation. -/
theorem Awaits.complete_store (w : t.Awaits ticket place messages) (outcome : Outcome) :
    (t.controller.complete ticket outcome).1.store = t.controller.store ∨
      ∃ s, place = some s ∧ t.controller.store.messages? s = some messages ∧
        (t.controller.complete ticket outcome).1.store =
          t.controller.store.append s (.assistant (replyText outcome)) := by
  rcases w.complete_cases outcome with ⟨p, waited, same, result⟩ | result
  · rw [result, Controller.completeTurn_store]
    have meant := w.meant p waited same
    generalize p.target = target at meant
    cases meant with
    | @here s read => exact Or.inr ⟨s, rfl, read, rfl⟩
    | dropped => exact Or.inl rfl
    | gone _ read => exact Or.inl (Store.append_of_not_held read)
  · exact Or.inl (by rw [result])

/-- A reply to a turn that is still waited for is applied where the conversation of the turn is, or
is discarded because that is gone. -/
theorem Awaits.complete_ok (w : t.Awaits ticket place messages)
    (waits : t.controller.waitsFor ticket) (reply : Reply) :
    (∃ s, place = some s ∧ t.controller.store.messages? s = some messages ∧
        (t.controller.complete ticket (.ok reply)).1.store =
          t.controller.store.append s (.assistant reply.text) ∧
        (t.controller.complete ticket (.ok reply)).2 = ⟨true, reply.axes⟩) ∨
      place = none ∧
        (t.controller.complete ticket (.ok reply)).1.store = t.controller.store ∧
        (t.controller.complete ticket (.ok reply)).2 = .discarded := by
  obtain ⟨p, waited, same⟩ := waits
  have result := Controller.complete_of_turn w.notOpener waited same (.ok reply)
  rw [result, Controller.completeTurn_store]
  unfold Controller.completeTurn
  have meant := w.meant p waited same
  generalize p.target = target at meant
  cases meant with
  | @here s read =>
      have held : t.controller.store.holds s = true := by
        rw [Store.holds_eq_isSome_messages?, read]
        rfl
      exact Or.inl ⟨s, rfl, read, rfl, by simp [held]⟩
  | dropped => exact Or.inr ⟨rfl, rfl, rfl⟩
  | @gone id _ read =>
      have lost : t.controller.store.holds (.saved id) = false := by
        rw [Store.holds_eq_isSome_messages?, read]
        rfl
      exact Or.inr ⟨rfl, Store.append_of_not_held read, by simp [lost]⟩

/-- The conversation on view stays where it is when a turn is asked in it. -/
theorem follow_submit_cons (t : Trail) (ops : List Operation) (s : Selection) :
    t.follow (.submit :: ops) s = (t.next .submit).follow ops s := by
  have stays : t.controller.follow .submit s = some s :=
    Controller.follow_of_still rfl (by simp)
  rw [follow, stays, Option.bind_some]

/-- From when it is sent, a turn is tied to the conversation that was on view. -/
theorem Awaits.asked (reached : t.Reachable) (sent : t.controller.sent .submit = some o)
    (fresh : t.Along Fresh (.submit :: ops)) {prior : List Message}
    (read : t.controller.store.messages? t.controller.store.selection = some prior) :
    (t.run (.submit :: ops)).Awaits o.ticket
      (t.follow (.submit :: ops) t.controller.store.selection)
      (prior ++ [.user t.controller.input]) := by
  rw [run_cons, follow_submit_cons]
  exact (Awaits.submit reached sent read).run (hasContent_append_user prior _) fresh.2

/-- A turn is waited for as long as nothing brings its outcome or ends the wait. -/
theorem waitsFor_run (sent : t.controller.sent .submit = some o)
    (spared : (t.next .submit).Along (fun u op => u.controller.spares o.ticket op) ops) :
    (t.run (.submit :: ops)).controller.waitsFor o.ticket := by
  rw [run_cons]
  refine run_induction (P := fun u => u.controller.waitsFor o.ticket) ?_ ?_ spared
  · intro u op waits spared
    exact Controller.waitsFor_after waits spared
  · simp only [next]
    exact Controller.waitsFor_submit sent

/-- **Replies are routed.** A turn is asked in the conversation on view. Its request names that
conversation and its tool, and carries what the user and the assistant said in it so far. Whenever
its outcome comes, after whatever else happened, it changes no conversation, or it adds one message
of the assistant to the conversation that the turn was asked in, which by then has nothing after the
message of the turn. -/
theorem reply_routed (reached : t.Reachable) (sent : t.controller.sent .submit = some o)
    (fresh : t.Along Fresh (.submit :: ops)) (outcome : Outcome) :
    let asked := t.controller
    let view := asked.store.selection
    let now := (t.run (.submit :: ops)).controller
    let store' := (now.complete o.ticket outcome).1.store
    ∃ prior tool,
      asked.store.messages? view = some prior ∧ asked.store.tool? view = some tool ∧
      o.request = {
        sessionId := match view with
          | .current => "current"
          | .saved id => id.text
        message := asked.input
        history := (prior.filter fun m => m.role = .user ∨ m.role = .assistant).map
          fun m => ⟨m.role, m.text⟩
        tool := some tool.slug
        systemOverride := none } ∧
      (store' = now.store ∨
        ∃ place, t.follow (.submit :: ops) view = some place ∧
          now.store.messages? place = some (prior ++ [⟨.user, asked.input⟩]) ∧
          store' = now.store.append place ⟨.assistant, replyText outcome⟩ ∧
          ∀ s, store'.messages? s =
            if s = place then
              some (prior ++ [⟨.user, asked.input⟩, ⟨.assistant, replyText outcome⟩])
            else now.store.messages? s) := by
  intro asked view now store'
  obtain ⟨prior, read⟩ := asked.store.exists_messages?_selection
  refine ⟨prior, asked.activeTool, read, asked.tool?_selection, ?_, ?_⟩
  · obtain ⟨-, rfl⟩ := Controller.sent_submit.mp sent
    rw [← history_eq]
    simp only [Controller.turnRequest, Request.turn]
    rw [read]
    rfl
  · have w := Awaits.asked reached sent fresh read
    rcases w.complete_store outcome with same | ⟨place, there, before, added⟩
    · exact Or.inl same
    · have after := Store.messages?_append_turn before (.assistant (replyText outcome))
      rw [← added] at after
      exact Or.inr ⟨place, there, before, added, after⟩

/-- Leaving for another tool saves the draft, and the reply goes to the session it is saved as. The
line that the draft starts with is no part of the history that was sent. -/
theorem reply_routed_to_saved_draft :
    let t := (start .debrief none).run [.setInput "So?", .submit, .save ⟨⟨1⟩, ⟨0, 0⟩⟩,
      .setInput "What now?", .submit, .complete ⟨2⟩ (.ok ⟨"Wait.", none⟩), .setInput "And then?"]
    let o : Outbound := ⟨⟨3⟩, .turn, t.controller.turnRequest⟩
    let ops := [.submit, .navigate ⟨.resulting, none⟩ ⟨⟨2⟩, ⟨0, 0⟩⟩]
    t.Reachable ∧ t.controller.sent .submit = some o ∧ t.Along Fresh ops ∧
      o.request.history = [⟨.user, "What now?"⟩, ⟨.assistant, "Wait."⟩] ∧
      ((t.run ops).controller.complete o.ticket (.ok ⟨"Go on.", none⟩)).1.store.messages?
        (.saved ⟨2⟩) = some [.system readyMessage, .user "What now?", .assistant "Wait.",
          .user "And then?", .assistant "Go on."] := by
  intro t o ops
  have reached : t.Reachable := (Reachable.opened .debrief none).run (by decide)
  have sent : t.controller.sent .submit = some o := by decide
  have fresh : t.Along Fresh ops := by decide
  have viewed : t.controller.store.messages? t.controller.store.selection =
      some [.system readyMessage, .user "What now?", .assistant "Wait."] := by decide
  obtain ⟨prior, _, read, -, request, routed⟩ :=
    reply_routed reached sent fresh (.ok ⟨"Go on.", none⟩)
  cases viewed.symm.trans read
  refine ⟨reached, sent, fresh, congrArg Request.history request, ?_⟩
  rcases routed with same | ⟨place, there, -, -, messages⟩
  · exact absurd same (by decide)
  · have at_ : t.follow ops t.controller.store.selection = some (.saved ⟨2⟩) := by decide
    cases at_.symm.trans there
    rw [messages, if_pos rfl]
    rfl

/-- **Awaited replies arrive.** Unless its outcome came before, or a draft was saved on the user's
wish, a reply is added to the conversation that its turn was asked in if that is still there, right
after the message of the turn, and is dropped if it is not. No other conversation changes. -/
theorem awaited_reply_arrives (reached : t.Reachable)
    (sent : t.controller.sent .submit = some o) (fresh : t.Along Fresh (.submit :: ops))
    (spared : (t.next .submit).Along (fun u op => u.controller.spares o.ticket op) ops)
    (reply : Reply) :
    let asked := t.controller
    let view := asked.store.selection
    let now := (t.run (.submit :: ops)).controller
    let result := now.complete o.ticket (.ok reply)
    (∀ place, t.follow (.submit :: ops) view = some place →
      result.2 = ⟨true, reply.axes⟩ ∧
        result.1.store = now.store.append place ⟨.assistant, reply.text⟩ ∧
        ∃ prior, asked.store.messages? view = some prior ∧
          now.store.messages? place = some (prior ++ [⟨.user, asked.input⟩]) ∧
          ∀ s, result.1.store.messages? s =
            if s = place then
              some (prior ++ [⟨.user, asked.input⟩, ⟨.assistant, reply.text⟩])
            else now.store.messages? s) ∧
      (t.follow (.submit :: ops) view = none →
        result.2 = ⟨false, none⟩ ∧ result.1.store = now.store) := by
  intro asked view now result
  obtain ⟨prior, read⟩ := asked.store.exists_messages?_selection
  have w := Awaits.asked reached sent fresh read
  have waits := waitsFor_run sent spared
  rcases w.complete_ok waits reply with ⟨s, there, before, added, applied⟩ | ⟨gone, same, lost⟩
  · refine ⟨fun place at_ => ?_, fun gone => ?_⟩
    · cases there.symm.trans at_
      have after := Store.messages?_append_turn before (.assistant reply.text)
      rw [← added] at after
      exact ⟨applied, added, prior, read, before, after⟩
    · cases there.symm.trans gone
  · refine ⟨fun place at_ => ?_, fun _ => ⟨lost, same⟩⟩
    cases gone.symm.trans at_

/-- A reply comes to a saved session while another tool's draft is on view. -/
theorem awaited_reply_arrives_after_switch :
    let t := (start .debrief none).run [.setInput "What now?"]
    let o : Outbound := ⟨⟨1⟩, .turn, t.controller.turnRequest⟩
    let ops := [.submit, .navigate ⟨.resulting, none⟩ ⟨⟨1⟩, ⟨0, 0⟩⟩, .select .current]
    t.Reachable ∧ t.controller.sent .submit = some o ∧ t.Along Fresh ops ∧
      (t.next .submit).Along (fun u op => u.controller.spares o.ticket op) ops.tail ∧
      ((t.run ops).controller.complete o.ticket (.ok ⟨"Wait.", none⟩)).2 = ⟨true, none⟩ := by
  intro t o ops
  have reached : t.Reachable := (Reachable.opened .debrief none).run (by decide)
  have sent : t.controller.sent .submit = some o := by decide
  have fresh : t.Along Fresh ops := by decide
  have spared : (t.next .submit).Along (fun u op => u.controller.spares o.ticket op) ops.tail := by
    decide
  refine ⟨reached, sent, fresh, spared, ?_⟩
  have there : t.follow ops t.controller.store.selection = some (.saved ⟨1⟩) := by decide
  exact ((awaited_reply_arrives reached sent fresh spared ⟨"Wait.", none⟩).1 _ there).1

/-- Two ways to lose a reply that is waited for. A draft that repeats a saved session is left: its
reply is given up, though the copy is there. A draft is saved on the user's wish while the reply to
a saved session is waited for: that reply is given up. -/
theorem duplicate_draft_and_save_lose_replies :
    let repeats := (start .debrief none).run [.setInput "What now?", .submit, .save ⟨⟨1⟩, ⟨0, 0⟩⟩,
      .navigate ⟨.resulting, none⟩ ⟨⟨2⟩, ⟨0, 0⟩⟩, .navigate ⟨.debrief, none⟩ ⟨⟨2⟩, ⟨0, 0⟩⟩,
      .select .current, .setInput "What now?"]
    let leave := [.submit, .navigate ⟨.resulting, none⟩ ⟨⟨2⟩, ⟨0, 0⟩⟩]
    let left := (repeats.run leave).controller
    let views := (start .debrief none).run [.setInput "What now?", .submit,
      .complete ⟨1⟩ (.ok ⟨"Wait.", none⟩), .save ⟨⟨1⟩, ⟨0, 0⟩⟩, .setInput "And then?",
      .submit, .select (.saved ⟨1⟩), .complete ⟨2⟩ (.ok ⟨"Go on.", none⟩), .setInput "Why?"]
    let save := [.submit, .save ⟨⟨2⟩, ⟨0, 0⟩⟩]
    let saved := (views.run save).controller
    (repeats.Reachable ∧ repeats.Along Fresh leave ∧
      (repeats.controller.sent .submit).map (·.ticket) = some ⟨3⟩ ∧
      left.store.messages? (.saved ⟨1⟩) = some [.user "What now?"] ∧
      left.complete ⟨3⟩ (.ok ⟨"Wait.", none⟩) = ({ left with sending := none }, .discarded)) ∧
    (views.Reachable ∧ views.Along Fresh save ∧
      (views.controller.sent .submit).map (·.ticket) = some ⟨3⟩ ∧
      saved.store.messages? (.saved ⟨1⟩) =
        some [.user "What now?", .assistant "Wait.", .user "Why?"] ∧
      saved.complete ⟨3⟩ (.ok ⟨"Because.", none⟩) = (saved, .discarded)) := by
  intro repeats leave left views save saved
  have repeats_reached : repeats.Reachable := (Reachable.opened .debrief none).run (by decide)
  have repeats_fresh : repeats.Along Fresh leave := by decide
  have repeats_sent : (repeats.controller.sent .submit).map (·.ticket) = some ⟨3⟩ := by decide
  have copy : left.store.messages? (.saved ⟨1⟩) = some [.user "What now?"] := by decide
  have left_lost : left.complete ⟨3⟩ (.ok ⟨"Wait.", none⟩) =
      ({ left with sending := none }, .discarded) := by decide
  have views_reached : views.Reachable := (Reachable.opened .debrief none).run (by decide)
  have views_fresh : views.Along Fresh save := by decide
  have views_sent : (views.controller.sent .submit).map (·.ticket) = some ⟨3⟩ := by decide
  have asked : saved.store.messages? (.saved ⟨1⟩) =
      some [.user "What now?", .assistant "Wait.", .user "Why?"] := by decide
  have saved_lost : saved.complete ⟨3⟩ (.ok ⟨"Because.", none⟩) = (saved, .discarded) := by decide
  exact ⟨⟨repeats_reached, repeats_fresh, repeats_sent, copy, left_lost⟩,
    views_reached, views_fresh, views_sent, asked, saved_lost⟩

end Trail
end Counsel.Dialogue
