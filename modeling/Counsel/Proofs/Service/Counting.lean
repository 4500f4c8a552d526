import Counsel.Proofs.Service.Recognition

/-!
How the service counts the turns of a conversation.

A request carries the history, and the service takes half its length for the number of turns before.
That counts the messages of the user where each of them was answered: their replies stand between
them, an opener at the start is lost in the halving, and the line that a draft starts with after a
save is no part of the history. All of it rests on the shape of conversations.

* `turn_counted`: the reply to a turn has the number of the user's messages so far, and one more.
-/

namespace Counsel

/-- The messages of the user are each followed by one of the assistant. -/
def Answered (messages : List Message) : Prop :=
  ∀ i text, messages[i]? = some (.user text) → ∃ reply, messages[i + 1]? = some (.assistant reply)

/-- How many messages the user sent. -/
def questionCount (messages : List Message) : Nat := messages.countP (·.role = .user)

theorem Answered.of_append {messages : List Message} (before : List Message)
    (answered : Answered (before ++ messages)) : Answered messages := by
  intro i text there
  obtain ⟨reply, next⟩ := answered (before.length + i) text (by
    rw [List.getElem?_append_right (Nat.le_add_right _ _), Nat.add_sub_cancel_left, there])
  refine ⟨reply, ?_⟩
  rwa [Nat.add_assoc, List.getElem?_append_right (Nat.le_add_right _ _),
    Nat.add_sub_cancel_left] at next

/-- Where each message of the user was answered, turns are twice as many as these. -/
theorem Turns.length_of_answered {messages : List Message} (turns : Turns messages)
    (answered : Answered messages) : messages.length = 2 * questionCount messages := by
  induction turns with
  | nil => rfl
  | @asked text rest _ turns _ =>
      -- What follows is a message of the user again, or nothing.
      obtain ⟨reply, next⟩ := answered 0 text rfl
      cases turns <;> cases next
  | @answered text reply rest _ _ ih =>
      have later : rest.length = 2 * questionCount rest :=
        ih (Answered.of_append [.user text, .assistant reply] answered)
      have one :
          questionCount (.user text :: .assistant reply :: rest) = questionCount rest + 1 := by
        simp [questionCount, Message.user, Message.assistant]
      rw [one, List.length_cons, List.length_cons, later]
      omega

/-- Turns are part of the conversation, all of them. -/
theorem Turns.conversational {messages : List Message} (turns : Turns messages) :
    messages.filter Message.isConversational = messages := by
  induction turns with
  | nil => rfl
  | asked _ _ ih => exact congrArg (Message.user _ :: ·) ih
  | answered _ _ ih => exact congrArg (Message.user _ :: Message.assistant _ :: ·) ih

/-- Half the history is the user's, if each message of the user was answered. -/
theorem Shape.half_history {messages : List Message} (shape : Shape messages)
    (answered : Answered messages) :
    (Dialogue.history messages).length / 2 = questionCount messages := by
  obtain ⟨ready, opener, turns, rfl, first, second, rest⟩ := shape
  have twice := rest.length_of_answered (Answered.of_append _ answered)
  have whole := rest.conversational
  have split : (Dialogue.history (ready ++ opener ++ turns)).length =
      (Dialogue.history ready).length + (Dialogue.history opener).length + turns.length := by
    simp only [Dialogue.history, List.length_map, List.filter_append, List.length_append, whole]
  have count : questionCount (ready ++ opener ++ turns) =
      questionCount ready + questionCount opener + questionCount turns := by
    simp only [questionCount, List.countP_append]
  have silent : (Dialogue.history ready).length = 0 ∧ questionCount ready = 0 := by
    rcases first with rfl | rfl <;> exact ⟨rfl, rfl⟩
  have greeting : (Dialogue.history opener).length ≤ 1 ∧ questionCount opener = 0 := by
    rcases second with rfl | ⟨text, rfl⟩
    · exact ⟨Nat.zero_le 1, rfl⟩
    · exact ⟨Nat.le_refl 1, rfl⟩
  rw [split, count]
  omega

namespace Dialogue.Trail

open Service (respond turnNumber toolName)

variable {t : Trail} {o : Outbound}

/-- **Turns are counted by the messages of the user.** Whatever a reachable dialogue sends as a
turn: if each message of the user in the conversation on view is followed by one of the assistant,
and the service does not take the request for an opener, then the reply has the number of these
messages and one more, whatever the conversation starts with. It brings no catalogue. -/
theorem turn_counted (reached : t.Reachable) (sent : t.controller.sent .submit = some o)
    (answered : Answered t.controller.store.activeMessages) (turn : ¬ o.request.isOpener = true)
    (flows : Registry) :
    respond flows o.request = ⟨"[" ++ t.controller.activeTool.label ++
      " stub reply, turn " ++ toString (1 + questionCount t.controller.store.activeMessages) ++
      "] You said: \"" ++ Text.trim t.controller.input ++
      "\". What matters most to you here?", none⟩ := by
  obtain ⟨-, rfl⟩ := Controller.sent_submit.mp sent
  have tool : Tool.parse? (toolName t.controller.turnRequest) = some t.controller.activeTool :=
    Tool.parse?_slug _
  have shape : Shape t.controller.store.activeMessages :=
    reached.shape.of_messages? t.controller.store.messages?_selection
  have half := shape.half_history answered
  have number : turnNumber t.controller.turnRequest =
      1 + questionCount t.controller.store.activeMessages := by
    rw [turnNumber, Controller.turnRequest, Store.messages?_selection, Option.getD_some,
      Request.turn, half, Nat.add_comm]
  rw [respond, if_neg turn, tool, Service.setPhrase, number]
  rfl

/-- A draft started after a save: its line does not count, nor would an opener. -/
theorem turn_counted_after_save :
    let t := (start .debrief none).run [.ensureOpener, .complete ⟨1⟩ (.ok ⟨"Hello.", none⟩),
      .save ⟨⟨1⟩, ⟨0, 0⟩⟩, .setInput "What now?", .submit, .complete ⟨2⟩ (.ok ⟨"Wait.", none⟩),
      .setInput " And then?"]
    let o : Outbound := ⟨⟨3⟩, .turn, t.controller.turnRequest⟩
    t.Reachable ∧ t.controller.sent .submit = some o ∧
      t.controller.store.activeMessages =
        [.system readyMessage, .user "What now?", .assistant "Wait."] ∧
      Answered t.controller.store.activeMessages ∧ ¬ o.request.isOpener = true ∧
      respond Builtin.registry o.request =
        ⟨"[Decision Debrief stub reply, turn 2] You said: \"And then?\". " ++
          "What matters most to you here?", none⟩ := by
  intro t o
  have reached : t.Reachable := (Reachable.opened .debrief none).run (by decide)
  have sent : t.controller.sent .submit = some o := by decide
  have viewed : t.controller.store.activeMessages =
      [.system readyMessage, .user "What now?", .assistant "Wait."] := by decide
  have answered : Answered t.controller.store.activeMessages := by
    rw [viewed]
    intro i text there
    match i with
    | 0 => cases there
    | 1 => exact ⟨"Wait.", rfl⟩
    | 2 => cases there
  have turn : ¬ o.request.isOpener = true := by decide
  refine ⟨reached, sent, viewed, answered, turn, ?_⟩
  rw [turn_counted reached sent answered turn Builtin.registry, viewed]
  decide

end Dialogue.Trail
end Counsel
