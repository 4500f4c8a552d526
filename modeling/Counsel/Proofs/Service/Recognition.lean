import Counsel.Flow.Builtin
import Counsel.Proofs.Dialogue.Shape
import Counsel.Service.Respond

/-!
How the service tells openers from turns.

A request does not say which of the two it is. An opener is recognised by its message, which stands
for no words of the user, and by its empty history (`Request.isOpener`). Two kinds of requests
pass: the openers a dialogue asks for, and a turn of just these words in a draft where nobody said
anything (`Controller.PosesAsOpener`). A saved session has a conversation, so no turn in it passes.

* `openers_recognised`: what the service takes each request of a dialogue for, and how it answers.
* `turn_taken_for_opener`: the words themselves, sent by the user, get the opener for an answer.
-/

namespace Counsel

namespace Dialogue

/-- A history is empty exactly if there is no conversation. -/
theorem history_isEmpty (messages : List Message) :
    (history messages).isEmpty = !hasContent messages := by
  rw [history, List.isEmpty_map, Bool.eq_iff_iff, List.isEmpty_iff, List.filter_eq_nil_iff]
  simp [hasContent]

namespace Controller

variable {c : Controller} {op : Operation} {o : Outbound}

/-- The user is about to send the words that ask for an opener, as the first in the draft. -/
def PosesAsOpener (c : Controller) : Prop :=
  c.input = Request.openerMessage ∧ c.store.selection = .current ∧
    c.store.draft.hasContent = false

instance (c : Controller) : Decidable c.PosesAsOpener := by
  unfold PosesAsOpener; infer_instance

/-- Where every saved session has a conversation, a turn passes for an opener only as the first in
the draft. -/
theorem isOpener_turnRequest
    (content : ∀ s ∈ c.store.saved, hasContent s.messages = true) :
    c.turnRequest.isOpener = true ↔ c.PosesAsOpener := by
  have shape : c.turnRequest.isOpener = true ↔ c.input = Request.openerMessage ∧
      hasContent ((c.store.messages? c.store.selection).getD []) = false := by
    rw [turnRequest, Request.isOpener, Bool.and_eq_true, decide_eq_true_iff, Request.turn,
      history_isEmpty, Bool.not_eq_true']
  rw [shape, PosesAsOpener]
  refine and_congr_right fun _ => ?_
  cases viewed : c.store.selection with
  | current => exact ⟨fun empty => ⟨rfl, empty⟩, fun ⟨_, empty⟩ => empty⟩
  | saved id =>
      have held := c.store.holds_selection
      rw [viewed] at held
      obtain ⟨s, found⟩ := Option.isSome_iff_exists.mp held
      have talked := content s (List.mem_of_find?_eq_some found)
      simp [Store.messages?, found, talked]

end Controller

namespace Trail

open Service (respond openerFor setPhrase)

variable {t : Trail} {op : Operation} {o : Outbound}

/-- **Openers are told from turns, all but one.** Of the requests of a dialogue the service takes
the openers for openers, and answers with the first words of the draft's tool. It takes a turn for
one exactly if the user sends the words that ask for an opener as the first in the draft; it answers
every other turn with the set phrase. -/
theorem openers_recognised (reached : t.Reachable) (sent : t.controller.sent op = some o)
    (flows : Registry) :
    (o.request.isOpener = true ↔ o.kind = .opener ∨ t.controller.PosesAsOpener) ∧
      (o.kind = .opener → respond flows o.request =
        ⟨openerFor flows (t.next op).controller.store.draft.key.tool, none⟩) ∧
      (o.kind = .turn → respond flows o.request =
        ⟨if t.controller.PosesAsOpener then openerFor flows t.controller.activeTool
          else setPhrase (some t.controller.activeTool) o.request, none⟩) := by
  rcases Controller.request_of_sent sent with ⟨-, -, rfl⟩ | ⟨kind, request⟩
  · have recognised := Controller.isOpener_turnRequest (c := t.controller) reached.saved_content
    have tool : Tool.parse? (Service.toolName t.controller.turnRequest) =
        some t.controller.activeTool := Tool.parse?_slug _
    refine ⟨recognised.trans (by simp), nofun, fun _ => ?_⟩
    simp only [respond, tool, recognised]
    split <;> rfl
  · have recognised : o.request.isOpener = true := by
      rw [request]
      rfl
    have tool : Tool.parse? (Service.toolName o.request) =
        some (t.next op).controller.store.draft.key.tool := by
      rw [request]
      exact Tool.parse?_slug _
    refine ⟨by simp [recognised, kind], fun _ => ?_, fun turn => ?_⟩
    · simp only [respond, tool, recognised, if_true, Reply.ofText]
    · rw [kind] at turn
      cases turn

/-- The same words get an opener from the service where they are the first, and the set phrase
where an opener came before them. -/
theorem openers_recognised_among_turns :
    let t := (start .debrief none).run [.ensureOpener, .complete ⟨1⟩ (.ok ⟨"Hello.", none⟩),
      .setInput "__init__"]
    let o : Outbound := ⟨⟨2⟩, .turn, t.controller.turnRequest⟩
    t.Reachable ∧ t.controller.sent .submit = some o ∧ ¬ t.controller.PosesAsOpener ∧
      respond Builtin.registry o.request =
        ⟨setPhrase (some .debrief) o.request, none⟩ := by
  intro t o
  have reached : t.Reachable := (Reachable.opened .debrief none).run (by decide)
  have sent : t.controller.sent .submit = some o := by decide
  have poses : ¬ t.controller.PosesAsOpener := by decide
  refine ⟨reached, sent, poses, ?_⟩
  have answered := (openers_recognised reached sent Builtin.registry).2.2 rfl
  rwa [if_neg poses] at answered

/-- A turn that the service takes for an opener: the words that ask for one, as the first in the
draft. -/
theorem turn_taken_for_opener :
    let t := (start .debrief none).run [.setInput "__init__"]
    let o : Outbound := ⟨⟨1⟩, .turn, t.controller.turnRequest⟩
    t.Reachable ∧ t.controller.sent .submit = some o ∧ o.kind = .turn ∧
      o.request.isOpener = true ∧
      respond Builtin.registry o.request = ⟨openerFor Builtin.registry .debrief, none⟩ := by
  intro t o
  have reached : t.Reachable := (Reachable.opened .debrief none).run (by decide)
  have sent : t.controller.sent .submit = some o := by decide
  have recognised : o.request.isOpener = true := by decide
  refine ⟨reached, sent, rfl, recognised, ?_⟩
  have tool : Tool.parse? (Service.toolName o.request) = some .debrief := Tool.parse?_slug .debrief
  simp only [respond, tool, recognised, if_true, Reply.ofText]

end Trail
end Dialogue
end Counsel
