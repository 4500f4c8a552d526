import Counsel.Proofs.Dialogue.Running

/-!
Several clients of one actor, each of which sends texts.

To send a text is to set the input field and then to submit it, and the actor may handle what other
clients ask between the two. There is one input field: what is submitted is what stands there,
whoever wrote it. So a text may go out with the submit of another client, and its own client is then
told that nothing was sent (`overlapping_sends_mixed`).

`Shared` keeps the sends that are under way. A send is `alone` as long as no other client has set
the input field since it did.

* `Actor.types`: what a signal does with the input field, and the one way in which a turn is sent.
* `texts_attributed`: every turn goes out with one send, which is told so, and has the text written
  last; no text goes out twice; and a send that is alone sends its own text or none.
-/

namespace Counsel.Dialogue

/-- The text that an operation puts into the input field. -/
def Operation.text? : Operation → Option String
  | .setInput text => some text
  | _ => none

/-- The text that a signal puts into the input field. -/
def Signal.text? (signal : Signal) : Option String := signal.operation?.bind Operation.text?

/-- What comes to an actor with several clients: a command of one of them, with the stamp for the
session that it may save, or the outcome of a request. -/
inductive Move where
  | call (client : Nat) (command : Command) (stamp : Stamp)
  | finished (ticket : Ticket) (outcome : Outcome)
  deriving Repr

namespace Move

def signal : Move → Signal
  | .call _ command stamp => .command command stamp
  | .finished ticket outcome => .finished ticket outcome

/-- The text that a move puts into the input field. -/
def text? (move : Move) : Option String := move.signal.text?

/-- The texts that moves write, in their order. -/
def texts (moves : List Move) : List String := moves.filterMap text?

theorem eq_setInput {move : Move} {text : String} (writes : move.text? = some text) :
    ∃ client stamp, move = .call client (.setInput text) stamp := by
  cases move with
  | finished ticket outcome => cases writes
  | call client command stamp =>
      cases command with
      | setInput other =>
          cases writes
          exact ⟨client, stamp, rfl⟩
      | _ => cases writes

end Move

/-- A send under way: its text was written, and it was not submitted. -/
structure Writing where
  client : Nat
  text : String
  /-- No other client has set the input field since. -/
  alone : Bool
  deriving DecidableEq, Repr

/-- A send that is over: what its client was told, and the request that its submit sent. -/
structure Sent extends Writing where
  accepted : Bool
  request : Option Outbound
  deriving DecidableEq, Repr

/-- An actor with several clients, and the sends under way. -/
structure Shared where
  actor : Actor
  writing : List Writing
  deriving DecidableEq, Repr

namespace Controller

variable {c : Controller} {op : Operation} {o : Outbound}

theorem ensureOpener_input : c.ensureOpener.1.input = c.input := by
  unfold ensureOpener
  split <;> rfl

/-- What writes nothing leaves the input field as it is, or clears it. -/
theorem input_after (quiet : op.text? = none) :
    (c.after op).input = c.input ∨ (c.after op).input = "" := by
  unfold after
  cases op with
  | ensureOpener => exact Or.inl ensureOpener_input
  | navigate dest stamp =>
      left
      obtain ⟨_, _, _, left⟩ := c.leaveDraft_frame stamp
      simp only [perform, navigate, left]
      split
      · rfl
      · split
        · rfl
        · exact ensureOpener_input
  | setInput text => cases quiet
  | submit =>
      simp only [perform, submit]
      split
      · exact Or.inr rfl
      · exact Or.inl rfl
  | complete ticket outcome =>
      left
      obtain ⟨_, _, _, _, _, _, frame⟩ := c.complete_frame ticket outcome
      simp only [perform, frame]
  | save stamp =>
      simp only [perform, save]
      split
      · exact Or.inr rfl
      · exact Or.inl rfl
  | select selection => exact Or.inl ensureOpener_input
  | delete id => exact Or.inl ensureOpener_input
  | rename id title => exact Or.inl rfl

/-- What is sent by a submit is a turn with what stands in the input field, which is cleared. -/
theorem turn_of_submit (sent : c.sent .submit = some o) :
    o.request.message = c.input ∧ c.input ≠ "" ∧ (c.after .submit).input = "" := by
  obtain ⟨can, rfl⟩ := sent_submit.mp sent
  refine ⟨?_, ?_, ?_⟩
  · rfl
  · intro empty
    simp only [canSubmit, empty, Bool.and_eq_true, decide_eq_true_eq] at can
    exact can.1 rfl
  · simp [after, perform, submit, can]

end Controller

namespace Actor

/-- The turn that a signal sends, if it does. -/
def turn? (a : Actor) (signal : Signal) : Option Outbound :=
  (a.receive signal).dispatched.filter (·.kind = .turn)

/-- A submit sends what the dialogue sends, and tells whether that is something. -/
theorem receive_submit (a : Actor) (stamp : Stamp) :
    (a.receive (.command .submit stamp)).dispatched = a.controller.sent .submit ∧
      (a.receive (.command .submit stamp)).answer =
        .decided (a.controller.sent .submit).isSome := by
  simp only [receive, handle, step, Controller.sent, Controller.perform, and_self]

/-- What a submit sends is a turn. -/
theorem turn?_submit (a : Actor) (stamp : Stamp) :
    a.turn? (.command .submit stamp) = a.controller.sent .submit := by
  rw [turn?, (a.receive_submit stamp).1]
  cases request : a.controller.sent .submit with
  | none => rfl
  | some o =>
      obtain ⟨-, rfl⟩ := Controller.sent_submit.mp request
      rfl

/-- What a signal does with the input field, and the turn that it sends. -/
inductive Types (a : Actor) (signal : Signal) (a' : Actor) : Option Outbound → Prop where
  | written {text : String} (writes : signal.text? = some text)
      (input : a'.controller.input = text) : Types a signal a' none
  /-- What stands in the input field is sent. -/
  | sent {o : Outbound} {stamp : Stamp} (submits : signal = .command .submit stamp)
      (words : a.controller.input ≠ "") (message : o.request.message = a.controller.input)
      (input : a'.controller.input = "") : Types a signal a' (some o)
  | kept (quiet : signal.text? = none)
      (input : a'.controller.input = a.controller.input ∨ a'.controller.input = "") :
      Types a signal a' none

theorem types (a : Actor) (signal : Signal) :
    Types a signal (a.receive signal).actor (a.turn? signal) := by
  have text : ∀ op, signal.operation? = some op → signal.text? = op.text? := by
    intro op does
    rw [Signal.text?, does]
    rfl
  cases turn : a.turn? signal with
  | some o =>
      obtain ⟨sent, kind⟩ := Option.filter_eq_some_iff.mp turn
      rcases a.receive_cases signal with ⟨op, does, controller, dispatched⟩ | ⟨-, -, dispatched⟩
      · rw [dispatched] at sent
        cases Controller.submit_of_turn sent (of_decide_eq_true kind)
        obtain ⟨stamp, submits⟩ := Signal.eq_submit does
        obtain ⟨message, words, cleared⟩ := Controller.turn_of_submit sent
        exact .sent submits words message (by rw [controller, cleared])
      · rw [dispatched] at sent
        cases sent
  | none =>
      rcases a.receive_cases signal with ⟨op, does, controller, -⟩ | ⟨does, controller, -⟩
      · cases quiet : op.text? with
        | some written =>
            refine .written ((text op does).trans quiet) ?_
            rw [controller]
            cases op with
            | setInput other =>
                cases quiet
                rfl
            | _ => cases quiet
        | none =>
            refine .kept ((text op does).trans quiet) ?_
            rw [controller]
            exact Controller.input_after quiet
      · refine .kept ?_ (Or.inl (by rw [controller]))
        rw [Signal.text?, does]
        rfl

end Actor

namespace Shared

/-- A workspace just opened. -/
def start (navigation : Navigation) : Shared := ⟨(Actor.start navigation).actor, []⟩

/-- The sends under way after a move. -/
def writingAfter (writing : List Writing) : Move → List Writing
  | .call client (.setInput text) _ =>
      ⟨client, text, true⟩ :: writing.map fun w => { w with alone := false }
  | .call client .submit _ => writing.filter (·.client ≠ client)
  | _ => writing

def next (s : Shared) (move : Move) : Shared :=
  ⟨(s.actor.receive move.signal).actor, writingAfter s.writing move⟩

def run : Shared → List Move → Shared := List.foldl next

/-- A client does one thing after another: in the middle of a send it submits what it wrote, and
otherwise it has nothing to submit. -/
def Legal (s : Shared) : Move → Prop
  | .call client command _ => command = .submit ↔ client ∈ s.writing.map (·.client)
  | .finished _ _ => True

instance (s : Shared) (move : Move) : Decidable (s.Legal move) := by
  unfold Legal
  split <;> infer_instance

/-- Nobody else is in the middle of a send. -/
def Apart (s : Shared) : Move → Prop
  | .call client _ _ => ∀ w ∈ s.writing, w.client = client
  | .finished _ _ => True

instance (s : Shared) (move : Move) : Decidable (s.Apart move) := by
  unfold Apart
  split <;> infer_instance

/-- The send that a move ends, if it does. -/
def ended? (s : Shared) : Move → Option Sent
  | .call client .submit stamp =>
      let step := s.actor.receive (.command .submit stamp)
      (s.writing.find? (·.client = client)).map fun w =>
        ⟨w, step.answer = .decided true, step.dispatched⟩
  | _ => none

/-- The turns that a run sends. -/
def turns : Shared → List Move → List Outbound :=
  Run.collect next fun s move => (s.actor.turn? move.signal).toList

/-- The sends that end in a run. -/
def sends : Shared → List Move → List Sent :=
  Run.collect next fun s move => (s.ended? move).toList

variable {s : Shared} {move : Move} {moves : List Move} {navigation : Navigation}

/-! ### Which text is sent -/

theorem turns_cons (s : Shared) (move : Move) (moves : List Move) :
    s.turns (move :: moves) = (s.actor.turn? move.signal).toList ++ (s.next move).turns moves := rfl

/-- The turns of a run have the texts that were written, in their order, after what stood in the
input field; and no text goes out twice. -/
theorem messages_sublist (s : Shared) (moves : List Move) :
    List.Sublist ((s.turns moves).map (·.request.message))
        (s.actor.controller.input :: Move.texts moves) ∧
      (s.actor.controller.input = "" →
        List.Sublist ((s.turns moves).map (·.request.message)) (Move.texts moves)) := by
  -- The second half is needed where a turn goes out: that clears the field, so what comes later
  -- has a text that is written later.
  induction moves generalizing s with
  | nil => exact ⟨List.nil_sublist _, fun _ => List.nil_sublist _⟩
  | cons move moves ih =>
      obtain ⟨rest, rest_of_empty⟩ := ih (s.next move)
      have types := s.actor.types move.signal
      rw [turns_cons]
      generalize s.actor.turn? move.signal = turn at types ⊢
      cases types with
      | written writes input =>
          have all : List.Sublist (((s.next move).turns moves).map (·.request.message))
              (Move.texts (move :: moves)) := by
            rw [Move.texts, List.filterMap_cons_some (f := Move.text?) writes]
            rw [next, input] at rest
            exact rest
          exact ⟨all.cons _, fun _ => all⟩
      | sent submits words message input =>
          have quiet : move.text? = none := by rw [Move.text?, submits]; rfl
          have later := rest_of_empty input
          refine ⟨?_, fun empty => absurd empty words⟩
          rw [Move.texts, List.filterMap_cons_none (f := Move.text?) quiet]
          simp only [Option.toList_some, List.singleton_append, List.map_cons, message]
          exact later.cons_cons _
      | kept quiet input =>
          rw [Move.texts, List.filterMap_cons_none (f := Move.text?) quiet]
          rcases input with same | empty
          · have still : (s.next move).actor.controller.input = s.actor.controller.input := same
            rw [still] at rest rest_of_empty
            exact ⟨rest, rest_of_empty⟩
          · exact ⟨(rest_of_empty empty).cons _, fun _ => rest_of_empty empty⟩

theorem run_concat (s : Shared) (moves : List Move) (move : Move) :
    s.run (moves ++ [move]) = (s.run moves).next move := List.foldl_append

/-- What stands in the input field is the text that was written last, if anything stands there. -/
theorem input_run (navigation : Navigation) (moves : List Move) :
    ((start navigation).run moves).actor.controller.input = "" ∨
      (Move.texts moves).getLast? =
        some ((start navigation).run moves).actor.controller.input := by
  induction moves using List.reverseRecOn with
  | nil => exact Or.inl rfl
  | append_singleton moves move ih =>
      have types := ((start navigation).run moves).actor.types move.signal
      rw [run_concat, Move.texts, List.filterMap_append]
      generalize ((start navigation).run moves).actor.turn? move.signal = turn at types
      cases types with
      | written writes input =>
          right
          rw [List.filterMap_cons_some (f := Move.text?) writes, next, input]
          exact List.getLast?_concat
      | sent _ _ _ input => exact Or.inl input
      | kept quiet input =>
          rw [List.filterMap_cons_none (f := Move.text?) quiet, List.filterMap_nil,
            List.append_nil]
          rcases input with same | empty
          · rw [next, same]
            exact ih
          · exact Or.inl empty

/-- A turn has the text that was written last. -/
theorem message_of_turn {o : Outbound}
    (turn : ((start navigation).run moves).actor.turn? move.signal = some o) :
    (Move.texts moves).getLast? = some o.request.message := by
  have types := ((start navigation).run moves).actor.types move.signal
  rw [turn] at types
  cases types with
  | sent _ words message _ =>
      rw [message]
      exact (input_run navigation moves).resolve_left words

/-! ### With which send a text goes out -/

/-- A send ends with its submit. It is one that was under way, and its client is told whether the
submit sent a turn. -/
theorem submit_of_ended {sent : Sent} (ended : s.ended? move = some sent) :
    (∃ stamp, move = .call sent.client .submit stamp) ∧ sent.toWriting ∈ s.writing ∧
      sent.request = s.actor.turn? move.signal ∧ sent.accepted = sent.request.isSome := by
  cases move with
  | finished ticket outcome => cases ended
  | call client command stamp =>
      cases command with
      | submit =>
          obtain ⟨w, found, rfl⟩ := Option.map_eq_some_iff.mp ended
          have mine : w.client = client := by simpa using List.find?_some found
          obtain ⟨dispatched, answer⟩ := s.actor.receive_submit stamp
          refine ⟨⟨stamp, by rw [mine]⟩, List.mem_of_find?_eq_some found, ?_, ?_⟩
          · rw [Move.signal, s.actor.turn?_submit, ← dispatched]
          · simp [dispatched, answer]
      | _ => cases ended

/-- A move sends a turn only as the submit of a send, and then it is the turn of that send. -/
theorem turn?_of_legal (legal : s.Legal move) :
    s.actor.turn? move.signal = (s.ended? move).bind (·.request) := by
  cases ended : s.ended? move with
  | some sent => exact (submit_of_ended ended).2.2.1.symm
  | none =>
      have types := s.actor.types move.signal
      generalize s.actor.turn? move.signal = turn at types ⊢
      cases types with
      | written => rfl
      | kept => rfl
      | sent submits =>
          -- Who submits is in the middle of a send, so that send ends here.
          cases move with
          | finished ticket outcome => cases submits
          | call client command stamp =>
              cases submits
              obtain ⟨w, member, mine⟩ := List.mem_map.mp (legal.mp rfl)
              have absent := List.find?_eq_none.mp (Option.map_eq_none_iff.mp ended) w member
              simp [mine] at absent

/-- A send that is alone is of the text in the input field, if anything stands there. -/
def Own (s : Shared) : Prop :=
  ∀ w ∈ s.writing, w.alone = true →
    s.actor.controller.input = w.text ∨ s.actor.controller.input = ""

theorem writingAfter_sublist {writing : List Writing} (quiet : move.text? = none) :
    (writingAfter writing move).Sublist writing := by
  cases move with
  | finished ticket outcome => exact List.Sublist.refl _
  | call client command stamp =>
      cases command with
      | setInput text => cases quiet
      | submit => exact List.filter_sublist
      | _ => exact List.Sublist.refl _

theorem Own.next (own : s.Own) (move : Move) : (s.next move).Own := by
  intro w member alone
  have types := s.actor.types move.signal
  generalize s.actor.turn? move.signal = turn at types
  cases types with
  | written writes input =>
      obtain ⟨client, stamp, rfl⟩ := Move.eq_setInput writes
      rcases List.mem_cons.mp member with rfl | older
      · exact Or.inl input
      · obtain ⟨_, -, rfl⟩ := List.mem_map.mp older
        cases alone
  | sent _ _ _ input => exact Or.inr input
  | kept quiet input =>
      rcases input with same | empty
      · have still : (s.next move).actor.controller.input = s.actor.controller.input := same
        rw [still]
        exact own w ((writingAfter_sublist quiet).subset member) alone
      · exact Or.inr empty

/-- A send that is alone sends its own text. -/
theorem Own.message (own : s.Own) {sent : Sent} (ended : s.ended? move = some sent)
    (alone : sent.alone = true) : ∀ o ∈ sent.request, o.request.message = sent.text := by
  obtain ⟨-, member, request, -⟩ := submit_of_ended ended
  intro o sent'
  have types := s.actor.types move.signal
  rw [← request, sent'] at types
  cases types with
  | sent _ words message _ =>
      rw [message]
      exact (own _ member alone).resolve_right words

/-- All sends under way are alone. -/
def Alone (s : Shared) : Prop := ∀ w ∈ s.writing, w.alone = true

/-- They are as long as nobody is in the middle of a send of another. -/
theorem Alone.next (all : s.Alone) (legal : s.Legal move) (apart : s.Apart move) :
    (s.next move).Alone := by
  cases quiet : move.text? with
  | none =>
      intro w member
      exact all w ((writingAfter_sublist quiet).subset member)
  | some text =>
      obtain ⟨client, stamp, rfl⟩ := Move.eq_setInput quiet
      -- Who writes has no send under way, and nobody else may have one.
      have nobody : s.writing = [] := by
        rw [List.eq_nil_iff_forall_not_mem]
        intro w member
        have mine : w.client = client := apart w member
        have submits := legal.mpr (List.mem_map.mpr ⟨w, member, mine⟩)
        cases submits
      intro w member
      rcases List.mem_cons.mp member with rfl | older
      · rfl
      · rw [nobody] at older
        cases older

/-- **Who sends what.** For any number of clients, in every run, whatever comes in whatever order:

* the turns that are sent are those of the sends, one after another, and a client is told whether
  its submit sent one;
* a turn that is sent next has the text that was written last, and no text goes out twice;
* a send sends its own text or nothing, if no other client wrote between its two commands;
* and that is so of all sends, if nobody is ever in the middle of a send of another. -/
theorem texts_attributed (navigation : Navigation)
    (legal : Run.Along next Legal (start navigation) moves) :
    let s := start navigation
    s.turns moves = (s.sends moves).filterMap (·.request) ∧
      (∀ sent ∈ s.sends moves, sent.accepted = sent.request.isSome) ∧
      (∀ (move : Move), ∀ o ∈ (s.run moves).actor.turn? move.signal,
        (Move.texts moves).getLast? = some o.request.message) ∧
      List.Sublist ((s.turns moves).map (·.request.message)) (Move.texts moves) ∧
      (∀ sent ∈ s.sends moves, sent.alone = true →
        ∀ o ∈ sent.request, o.request.message = sent.text) ∧
      (Run.Along next Apart s moves → ∀ sent ∈ s.sends moves, sent.alone = true) := by
  intro s
  have own : s.Own := by
    intro w member
    cases member
  have all : s.Alone := by
    intro w member
    cases member
  refine ⟨?_, ?_, ?_, ?_, ?_, ?_⟩
  · refine Run.collect_filterMap ?_ legal
    intro s move legal
    rw [turn?_of_legal legal]
    cases s.ended? move <;> rfl
  · refine Run.forall_mem_collect (Q := fun _ => True) (fun _ _ _ _ => trivial) ?_ trivial legal
    intro s move _ sent ended
    exact (submit_of_ended (Option.mem_toList.mp ended)).2.2.2
  · intro move o sent
    exact message_of_turn sent
  · exact (s.messages_sublist moves).2 rfl
  · refine Run.forall_mem_collect (Q := Own) (fun _ move own _ => own.next move) ?_ own legal
    intro s move own sent ended
    exact own.message (Option.mem_toList.mp ended)
  · intro apart
    refine Run.forall_mem_collect (Q := Alone) ?_ ?_ all (Run.along_and.mpr ⟨legal, apart⟩)
    · rintro s move all ⟨legal, apart⟩
      exact all.next legal apart
    · intro s move all sent ended
      exact all _ (submit_of_ended (Option.mem_toList.mp ended)).2.1

/-- One client sends a text; then two send at once, and the text of one goes out with the submit of
the other. -/
theorem texts_attributed_to_overlapping_sends :
    let stamp : Stamp := ⟨⟨1⟩, ⟨0, 0⟩⟩
    let moves : List Move := [.call 1 (.setInput "What now?") stamp, .call 1 .submit stamp,
      .finished ⟨2⟩ (.ok ⟨"Wait.", none⟩), .call 1 (.setInput "And then?") stamp,
      .call 2 (.setInput "Why?") stamp, .call 1 .submit stamp, .call 2 .submit stamp]
    Run.Along next Legal (start ⟨.debrief, none⟩) moves ∧
      List.Sublist (((start ⟨.debrief, none⟩).turns moves).map (·.request.message))
        (Move.texts moves) ∧
      ((start ⟨.debrief, none⟩).sends moves).map (·.accepted) = [true, true, false] ∧
      ((start ⟨.debrief, none⟩).sends moves).map (·.alone) = [true, false, true] := by
  intro stamp moves
  have legal : Run.Along next Legal (start ⟨.debrief, none⟩) moves := by decide
  obtain ⟨-, -, -, once, -, -⟩ := texts_attributed ⟨.debrief, none⟩ legal
  exact ⟨legal, once, by decide, by decide⟩

/-- Two clients send at once. The first is told that its text was sent, and the text of the second
was; the second is told that nothing was. -/
theorem overlapping_sends_mixed :
    let stamp : Stamp := ⟨⟨1⟩, ⟨0, 0⟩⟩
    let moves : List Move := [.call 1 (.setInput "What now?") stamp,
      .call 2 (.setInput "Why?") stamp, .call 1 .submit stamp, .call 2 .submit stamp]
    let s := start ⟨.debrief, none⟩
    Run.Along next Legal s moves ∧
      (s.sends moves).map (fun sent => (sent.client, sent.text, sent.accepted)) =
        [(1, "What now?", true), (2, "Why?", false)] ∧
      (s.turns moves).map (·.request.message) = ["Why?"] := by
  decide

end Shared
end Counsel.Dialogue
