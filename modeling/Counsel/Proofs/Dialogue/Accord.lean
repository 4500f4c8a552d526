import Counsel.Proofs.Dialogue.Awaited
import Counsel.Proofs.Dialogue.Keys
import Counsel.Proofs.Dialogue.Openers

/-!
How the parts of a dialogue agree with one another.

`Controller.Keyed` ties the draft to the place the dialogue is on, and `Controller.Coherent` what is
initialized to the draft. Two more are of what is waited for. `Controller.Addressed`: an opener of
this epoch is for the draft's key, since the key stays as long as the epoch does.
`Controller.Stands`: the message of a turn ends the draft as long as the reply is meant for it,
since nothing but that reply comes to a conversation that waits for one. For the saved sessions
`Trail.Awaits` says the same.

* `parts_agree`: all of this in every run. New identifiers are asked for only where a reply is meant
  for a saved session: another session of the same identifier would stand before that one.
-/

namespace Counsel

theorem hasContent_iff {messages : List Message} :
    hasContent messages = true ↔ ∃ m ∈ messages, m.role = .user ∨ m.role = .assistant := by
  simp only [hasContent, List.any_eq_true, Message.isConversational_iff]

namespace Dialogue

namespace Controller

variable {c : Controller} {ticket : Ticket} {text : String}

/-! ### What is initialized -/

theorem Coherent.length_initialized_le (coherent : c.Coherent) : c.initialized.length ≤ 1 := by
  rcases coherent.initialized with unfetched | ⟨only, -⟩
  · simp [unfetched]
  · simp [only]

theorem Coherent.of_mem_initialized (coherent : c.Coherent) {key : SessionKey}
    (fetched : key ∈ c.initialized) :
    key = c.store.draft.key ∧ c.store.draft.hasContent = true := by
  rcases coherent.initialized with unfetched | ⟨only, content⟩
  · simp [unfetched] at fetched
  · rw [only] at fetched
    exact ⟨List.mem_singleton.mp fetched, content⟩

/-- What is initialized never decides alone whether an opener is asked for: the draft has a
conversation then. -/
theorem Coherent.ensureOpener_of_forgotten (coherent : c.Coherent) :
    ({ c with initialized := [] } : Controller).ensureOpener =
      ({ c.ensureOpener.1 with initialized := [] }, c.ensureOpener.2) := by
  cases content : c.store.draft.hasContent with
  | true =>
      have settled : c.Settled := settled_of_content content
      have settled' : ({ c with initialized := [] } : Controller).Settled :=
        settled_of_content content
      rw [settled.ensureOpener_eq, settled'.ensureOpener_eq]
  | false =>
      have unfetched : c.initialized = [] := coherent.initialized_of_empty content
      have unfetched' : c.ensureOpener.1.initialized = [] := by
        rw [ensureOpener_initialized, unfetched]
      have same : ({ c with initialized := [] } : Controller) = c := by rw [← unfetched]
      have same' : ({ c.ensureOpener.1 with initialized := [] } : Controller) =
          c.ensureOpener.1 := by rw [← unfetched']
      rw [same, same']

/-! ### Openers of this epoch -/

/-- An opener of this epoch is for the draft that there is. -/
def Addressed (c : Controller) : Prop :=
  ∀ p ∈ c.opener, p.epoch = c.epoch → p.key = c.store.draft.key

theorem Addressed.after (addressed : c.Addressed) (coherent : c.Coherent) (op : Operation) :
    (c.after op).Addressed := by
  intro p waited now
  cases c.openerChange op with
  | kept opener _ =>
      rw [opener] at waited
      rcases coherent.past_or_still op waited with past | ⟨still, epoch⟩
      · exact absurd now (Nat.ne_of_lt past)
      · rw [(draft_of_still still).1]
        exact addressed p waited (now.trans epoch)
  | closed opener _ => simp [opener] at waited
  | asked opener _ =>
      rw [opener] at waited
      cases waited
      rfl

/-! ### The message of the turn that is waited for -/

/-- The message sent under a ticket ends the draft, as long as its reply is meant for that. -/
structure Stands (c : Controller) (ticket : Ticket) (text : String) : Prop where
  issued : ticket.number ≤ c.lastTicket
  last : ∀ p ∈ c.sending, p.ticket = ticket → p.target = some .current →
    c.store.draft.messages.getLast? = some (.user text)

/-- The message of a turn that is sent comes to the end of the draft, if that is on view. -/
theorem stands_submit {o : Outbound} (sent : c.sent .submit = some o) :
    (c.after .submit).Stands o.ticket o.request.message := by
  obtain ⟨can, rfl⟩ := sent_submit.mp sent
  have after : c.after .submit = c.submit.1 := rfl
  simp only [submit, if_pos can] at after
  rw [after]
  refine ⟨Nat.le_refl _, ?_⟩
  intro p waited _ meant
  cases waited
  have viewed : c.store.selection = .current := Option.some.inj meant
  rw [viewed]
  exact List.getLast?_concat

/-- Nothing comes after the message until its reply does. -/
theorem Stands.after (stands : c.Stands ticket text) (op : Operation) :
    (c.after op).Stands ticket text := by
  refine ⟨Nat.le_trans stands.issued (c.lastTicket_le_after op), ?_⟩
  intro p waited same meant
  cases c.change op with
  | keep _ _ draft _ sending =>
      rw [sending] at waited
      rw [draft]
      exact stands.last p waited same meant
  | delete store sending =>
      rw [sending] at waited
      rw [store]
      exact stands.last p waited same meant
  | rename store sending =>
      rw [sending] at waited
      rw [store]
      exact stands.last p waited same meant
  | greet _ empty _ sending =>
      -- An opener comes only to a draft without a conversation, and here there is one.
      rw [sending] at waited
      obtain ⟨prior, whole⟩ := List.getLast?_eq_some_iff.mp (stands.last p waited same meant)
      have content := hasContent_append_user prior text
      rw [Draft.hasContent, whole, content] at empty
      cases empty
  | ask _ _ _ sending =>
      rw [sending] at waited
      cases waited
      have issued := stands.issued
      simp only [← same, nextTicket] at issued
      omega
  | answer _ _ _ sending => simp [sending] at waited
  | drop _ _ _ sending => simp [sending] at waited
  | save _ _ _ sending => simp [sending] at waited
  | leave _ _ _ _ _ sending =>
      rw [sending] at waited
      obtain ⟨q, -, rfl⟩ := Option.map_eq_some_iff.mp waited
      exact absurd meant (q.redirect_target_ne (by simp))
  | abandon _ _ _ _ sending =>
      rw [sending] at waited
      obtain ⟨q, -, rfl⟩ := Option.map_eq_some_iff.mp waited
      exact absurd meant (q.redirect_target_ne (by simp))

end Controller

namespace Trail

/-- In every run an opener of the last epoch is for the draft. -/
theorem addressed_run (tool : Tool) (axis : Option String) (ops : List Operation) :
    ((start tool axis).run ops).controller.Addressed :=
  run_keeps_coherent (fun _ op coherent addressed => addressed.after coherent op)
    (Controller.coherent_new _) (by simp [Controller.Addressed, start, Controller.new]) ops

/-- A turn that a run sent stands, and in a run whose identifiers are new it is tied to its
conversation. -/
theorem stands_run (tool : Tool) (axis : Option String) (ops : List Operation) :
    ∀ o ∈ (start tool axis).requests ops, o.kind = .turn →
      ((start tool axis).run ops).controller.Stands o.ticket o.request.message ∧
        ((start tool axis).Along Fresh ops → ∃ place prior,
          ((start tool axis).run ops).Awaits o.ticket place
            (prior ++ [.user o.request.message])) := by
  induction ops using List.reverseRecOn with
  | nil => simp [requests, collect]
  | append_singleton ops op ih =>
      intro o sent turn
      rw [run_concat]
      rcases mem_requests_concat.mp sent with before | now
      · obtain ⟨stands, tied⟩ := ih o before turn
        refine ⟨stands.after op, fun fresh => ?_⟩
        obtain ⟨fresh, new⟩ := along_concat.mp fresh
        obtain ⟨place, prior, awaits⟩ := tied fresh
        exact ⟨_, prior, awaits.next (hasContent_append_user prior _) new⟩
      · rcases Controller.request_of_sent now with ⟨rfl, -, rfl⟩ | ⟨opener, -⟩
        · constructor
          · simp only [next]
            exact Controller.stands_submit now
          · intro fresh
            have reached := (Reachable.opened tool axis).run (along_concat.mp fresh).1
            obtain ⟨prior, read⟩ := Store.exists_messages?_selection _
            exact ⟨_, prior, Awaits.submit reached now read⟩
        · rw [turn] at opener
          cases opener

/-- **The parts of a dialogue agree.** In every run the draft is for the tool and axis the dialogue
is on, and its key is normalised. At most the draft's key counts as initialized, and only while the
draft has a word of the user or of the assistant, so it makes no difference to what `ensureOpener`
does. An opener that is waited for is of this epoch or an earlier one; one of this epoch is for the
draft's key. A turn that is waited for was sent, and its message is the last of the draft, if the
reply is meant for that; where every session got an identifier never given before, the message is
the last of the saved session that the reply is meant for, if that is there. -/
theorem parts_agree (tool : Tool) (axis : Option String) (ops : List Operation) :
    let t := start tool axis
    let now := (t.run ops).controller
    let draft := now.store.draft
    (draft.key = now.navigation.key ∧ draft.key.Normal) ∧
      (∀ key ∈ now.initialized, key = draft.key ∧
        ∃ m ∈ draft.messages, m.role = .user ∨ m.role = .assistant) ∧
      now.initialized.length ≤ 1 ∧
      ({ now with initialized := [] } : Controller).ensureOpener =
        ({ now.ensureOpener.1 with initialized := [] }, now.ensureOpener.2) ∧
      (∀ p ∈ now.opener, p.epoch ≤ now.epoch ∧ (p.epoch = now.epoch → p.key = draft.key)) ∧
      ∀ p ∈ now.sending, ∃ o ∈ t.requests ops, o.ticket = p.ticket ∧ o.kind = .turn ∧
        (p.target = some .current →
          draft.messages.getLast? = some (.user o.request.message)) ∧
        (t.Along Fresh ops → ∀ id s, p.target = some (.saved id) → now.store.get? id = some s →
          s.messages.getLast? = some (.user o.request.message)) := by
  intro t now draft
  have keyed : now.Keyed := keyed_run tool axis ops
  have coherent : now.Coherent := coherent_run tool axis ops
  have addressed : now.Addressed := addressed_run tool axis ops
  refine ⟨⟨keyed.draft, keyed.draft_normal⟩, ?_, coherent.length_initialized_le,
    coherent.ensureOpener_of_forgotten, ?_, ?_⟩
  · intro key fetched
    obtain ⟨own, content⟩ := coherent.of_mem_initialized fetched
    exact ⟨own, hasContent_iff.mp content⟩
  · intro p waited
    exact ⟨coherent.opener p waited, addressed p waited⟩
  · intro p waited
    obtain ⟨o, sent, same, turn⟩ := turn_requested tool axis ops p waited
    obtain ⟨stands, tied⟩ := stands_run tool axis ops o sent turn
    refine ⟨o, sent, same, turn, stands.last p waited same.symm, ?_⟩
    intro fresh id s meant found
    obtain ⟨place, prior, awaits⟩ := tied fresh
    rw [awaits.messages_of_saved waited same.symm meant found]
    exact List.getLast?_concat

/-- The opener comes, the user speaks, and leaves for another tool. The message of the user ends the
draft, whose key counts as initialized, and then the session that the draft is saved as; the opener
that is waited for then is for the draft of the other tool. -/
theorem parts_agree_across_switch :
    let t := start .debrief none
    let asked : List Operation := [.ensureOpener, .complete ⟨1⟩ (.ok ⟨"Hello.", none⟩),
      .setInput "What now?", .submit]
    let left : List Operation := asked ++ [.navigate ⟨.resulting, none⟩ ⟨⟨1⟩, ⟨0, 0⟩⟩]
    let before := (t.run asked).controller
    let now := (t.run left).controller
    (⟨.debrief, none⟩ ∈ before.initialized ∧
        ∃ m ∈ before.store.draft.messages, m.role = .user ∨ m.role = .assistant) ∧
      before.sending = some ⟨⟨2⟩, some .current⟩ ∧
      before.store.draft.messages.getLast? = some (.user "What now?") ∧
      t.Along Fresh left ∧ now.sending = some ⟨⟨2⟩, some (.saved ⟨1⟩)⟩ ∧
      (∃ s, now.store.get? ⟨1⟩ = some s ∧ s.messages.getLast? = some (.user "What now?")) ∧
      ∃ p ∈ now.opener, p.epoch = now.epoch ∧ p.key = now.store.draft.key := by
  intro t asked left before now
  have fetched : ⟨.debrief, none⟩ ∈ before.initialized := by decide
  have waiting : before.sending = some ⟨⟨2⟩, some .current⟩ := by decide
  have waiting' : now.sending = some ⟨⟨2⟩, some (.saved ⟨1⟩)⟩ := by decide
  have fresh : t.Along Fresh left := by decide
  -- There is one request under the ticket of the turn.
  have message : ∀ o ∈ t.requests asked, o.ticket = ⟨2⟩ → o.request.message = "What now?" := by
    decide
  have message' : ∀ o ∈ t.requests left, o.ticket = ⟨2⟩ → o.request.message = "What now?" := by
    decide
  obtain ⟨s, found⟩ : ∃ s, now.store.get? ⟨1⟩ = some s :=
    Option.isSome_iff_exists.mp (by decide)
  have opened : ⟨⟨3⟩, ⟨.resulting, none⟩, 1⟩ ∈ now.opener := by decide
  have epoch : 1 = now.epoch := by decide
  obtain ⟨-, spoken, -, -, -, inDraft⟩ := parts_agree .debrief none asked
  obtain ⟨-, -, -, -, ofEpoch, inSession⟩ := parts_agree .debrief none left
  -- From here on the two states are only compared, and need not be computed again.
  have atAsked : ((start .debrief none).run asked).controller = before := rfl
  have atLeft : ((start .debrief none).run left).controller = now := rfl
  rw [atAsked] at spoken inDraft
  rw [atLeft] at ofEpoch inSession
  clear_value before now
  obtain ⟨o, sent, same, -, last, -⟩ := inDraft _ waiting
  obtain ⟨o', sent', same', -, -, last'⟩ := inSession _ waiting'
  refine ⟨⟨fetched, (spoken _ fetched).2⟩, waiting, ?_, fresh, waiting', ⟨s, found, ?_⟩, _, opened,
    epoch, ?_⟩
  · rw [last rfl, message o sent same]
  · rw [last' fresh ⟨1⟩ s rfl found, message' o' sent' same']
  · exact (ofEpoch _ opened).2 epoch

end Trail
end Dialogue
end Counsel
