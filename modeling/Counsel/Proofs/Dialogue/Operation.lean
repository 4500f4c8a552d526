import Counsel.Dialogue.Controller

/-!
A dialogue under way: what the user and the dialogue service do to it, one operation after another.

`Trail` is the state of a dialogue with the identifiers that its sessions got so far. Whoever saves
a session gives it an identifier that was never given before (`Trail.Fresh`); nothing else is asked
of an operation. `Trail.Reachable` are the states that runs from a workspace just opened lead to,
and `Trail.Along` says something of every step of a run.
-/

namespace Counsel.Dialogue

/-- What the user and the dialogue service can do to a dialogue. -/
inductive Operation where
  | ensureOpener
  | navigate (dest : Navigation) (stamp : Stamp)
  | setInput (text : String)
  | submit
  | complete (ticket : Ticket) (outcome : Outcome)
  | save (stamp : Stamp)
  | select (selection : Selection)
  | delete (id : SessionId)
  | rename (id : SessionId) (title : String)
  deriving Repr

namespace Controller

/-- The state after an operation, and the request that it sends. -/
def perform (c : Controller) : Operation → Controller × Option Outbound
  | .ensureOpener => c.ensureOpener
  | .navigate dest stamp => c.navigate dest stamp
  | .setInput text => (c.setInput text, none)
  | .submit => c.submit
  | .complete ticket outcome => ((c.complete ticket outcome).1, none)
  | .save stamp => ((c.save stamp).1, none)
  | .select selection => c.select selection
  | .delete id => c.delete id
  | .rename id title => (c.rename id title, none)

/-- The state after an operation. -/
def after (c : Controller) (op : Operation) : Controller := (c.perform op).1

/-- The request that an operation sends. -/
def sent (c : Controller) (op : Operation) : Option Outbound := (c.perform op).2

/-- The session that an operation saves the draft as, if it does. -/
def created (c : Controller) : Operation → Option SavedSession
  | .navigate dest stamp =>
      if dest.normalise ≠ c.navigation ∧ c.store.draft.hasContent ∧ ¬ c.store.draftIsSaved then
        some (c.store.sessionOfDraft stamp)
      else none
  | .save stamp =>
      if c.store.draft.hasContent then some (c.store.sessionOfDraft stamp) else none
  | _ => none

end Controller

/-- A dialogue and the identifiers that its sessions got so far, those of deleted sessions
included. -/
structure Trail where
  controller : Controller
  given : List SessionId
  deriving DecidableEq, Repr

namespace Trail

/-- A workspace just opened on a tool and an axis. -/
def start (tool : Tool) (axis : Option String) : Trail := ⟨.new (.of tool axis), []⟩

/-- The dialogue after an operation. -/
def next (t : Trail) (op : Operation) : Trail where
  controller := t.controller.after op
  given := (t.controller.created op).toList.map (·.id) ++ t.given

/-- The dialogue after operations one after another. -/
def run : Trail → List Operation → Trail := List.foldl next

/-- What an operation saves gets an identifier never given before. -/
def Fresh (t : Trail) (op : Operation) : Prop :=
  ∀ s ∈ t.controller.created op, s.id ∉ t.given

instance (t : Trail) (op : Operation) : Decidable (t.Fresh op) := by
  unfold Fresh; infer_instance

/-- Something holds of every step of a run. -/
def Along (P : Trail → Operation → Prop) : Trail → List Operation → Prop
  | _, [] => True
  | t, op :: ops => P t op ∧ Along P (t.next op) ops

instance instDecidableAlong (P : Trail → Operation → Prop) [∀ t op, Decidable (P t op)] :
    ∀ (t : Trail) (ops : List Operation), Decidable (Along P t ops)
  | _, [] => .isTrue trivial
  | t, op :: ops =>
      have := instDecidableAlong P (t.next op) ops
      inferInstanceAs (Decidable (_ ∧ _))

/-- The dialogues that are reached from a workspace just opened. -/
inductive Reachable : Trail → Prop where
  | opened (tool : Tool) (axis : Option String) : Reachable (start tool axis)
  | step {t : Trail} {op : Operation} : Reachable t → t.Fresh op → Reachable (t.next op)

variable {t : Trail} {op : Operation} {ops : List Operation}

@[simp] theorem run_nil (t : Trail) : t.run [] = t := rfl

@[simp] theorem run_cons (t : Trail) (op : Operation) (ops : List Operation) :
    t.run (op :: ops) = (t.next op).run ops := rfl

theorem run_append (t : Trail) (ops more : List Operation) :
    t.run (ops ++ more) = (t.run ops).run more := List.foldl_append

theorem run_concat (t : Trail) (ops : List Operation) (op : Operation) :
    t.run (ops ++ [op]) = (t.run ops).next op := t.run_append ops [op]

/-- What the steps of a run give, in their order. -/
def collect {α : Type} (give : Controller → Operation → Option α) :
    Trail → List Operation → List α
  | _, [] => []
  | t, op :: ops => (give t.controller op).toList ++ collect give (t.next op) ops

theorem collect_append {α : Type} (give : Controller → Operation → Option α) (t : Trail)
    (ops more : List Operation) :
    collect give t (ops ++ more) = collect give t ops ++ collect give (t.run ops) more := by
  induction ops generalizing t with
  | nil => rfl
  | cons op ops ih => simp only [List.cons_append, collect, ih, List.append_assoc, run_cons]

theorem collect_concat {α : Type} (give : Controller → Operation → Option α) (t : Trail)
    (ops : List Operation) (op : Operation) :
    collect give t (ops ++ [op]) =
      collect give t ops ++ (give (t.run ops).controller op).toList := by
  rw [collect_append]
  simp only [collect, List.append_nil]

theorem along_concat {P : Trail → Operation → Prop} :
    t.Along P (ops ++ [op]) ↔ t.Along P ops ∧ P (t.run ops) op := by
  induction ops generalizing t with
  | nil => simp [Along]
  | cons first ops ih => simp only [List.cons_append, Along, ih, run_cons, and_assoc]

/-- What every operation keeps is kept by every run, whatever identifiers it gives. -/
theorem run_keeps {P : Controller → Prop} (after : ∀ c op, P c → P (c.after op))
    (start : P t.controller) (ops : List Operation) : P (t.run ops).controller := by
  induction ops generalizing t with
  | nil => exact start
  | cons op ops ih => exact ih (after t.controller op start)

/-- What every step of a run keeps is kept by the run. -/
theorem run_induction {P : Trail → Prop} {Q : Trail → Operation → Prop}
    (step : ∀ t op, P t → Q t op → P (t.next op)) (start : P t) (along : t.Along Q ops) :
    P (t.run ops) := by
  induction ops generalizing t with
  | nil => exact start
  | cons op ops ih => exact ih (step t op start along.1) along.2

/-- A run from a reachable dialogue leads to a reachable one. -/
theorem Reachable.run (reached : t.Reachable) (fresh : t.Along Fresh ops) :
    (t.run ops).Reachable :=
  run_induction (fun _ _ reached fresh => reached.step fresh) reached fresh

end Trail
end Counsel.Dialogue
