import Counsel.Log.Buffer
import Counsel.Log.Entry
import Counsel.Proofs.Text.Blank
import Counsel.Proofs.Text.Utf8
import Counsel.Proofs.Time.Stamp

/-!
The log pane shows the log.

An event is written as one line: a stamp, a level, a target and a message. Reading a line looks for
the level's name and then for a colon and a space, wherever they are first. They are where they were
written: no stamp has the second letter of a level's name, and no target has a space.

* `shown_of_written`: whatever lines are written at once, there is one entry for each event, in
  order and with its level, its message and its time; and the buffer keeps the latest of them.
-/

namespace Counsel.Log

open Text (isBlank)

/-- An event of the log. -/
structure Event where
  time : Instant
  level : Level
  target : String
  message : String
  deriving Repr

/-- The line of an event, without its end. The time has so many places of seconds. -/
def Event.line (places : Nat) (e : Event) : String :=
  e.time.stamp places ++ " " ++ Text.padLeft 5 e.level.name ++ " " ++ e.target ++ ": " ++ e.message

/-- The lines of events, each with its end. -/
def Event.lines (places : Nat) (events : List Event) : List Char :=
  (events.map fun e => (e.line places).toList).flatMap (· ++ ['\n'])

/-- The entry of an event: what its line says of it. -/
def Event.entry (places : Nat) (e : Event) : Entry :=
  ⟨e.level, e.message, some (e.time.cutTo places)⟩

/-- What an event has to be like for a line to hold it: a time of four digits of year, a target
without white space, and a message on one line, not empty and without white space at its end. -/
structure Event.Plain (e : Event) : Prop where
  time : e.time.Stampable
  target : ∀ c ∈ e.target.toList, isBlank c = false
  message : e.message ≠ ""
  single : '\n' ∉ e.message.toList
  ended : ∀ c ∈ e.message.toList.getLast?, isBlank c = false

/-! ### Levels -/

@[simp] theorem Level.ofText_name (l : Level) : Level.ofText l.name = l := by
  cases l <;> decide

theorem Level.not_blank_name (l : Level) : ∀ c ∈ l.name.toList, isBlank c = false := by
  have all : l.name.toList.all (!isBlank ·) = true := by cases l <;> decide
  simpa using all

/-- The name of a level begins with two different letters, of which no stamp has the second. -/
theorem Level.exists_name (l : Level) : ∃ a b rest, l.name.toList = a :: b :: rest ∧
    a ≠ b ∧ ¬ Instant.IsStampChar b := by
  cases l
  · exact ⟨'E', 'R', ['R', 'O', 'R'], by decide⟩
  · exact ⟨'W', 'A', ['R', 'N'], by decide⟩
  · exact ⟨'I', 'N', ['F', 'O'], by decide⟩
  · exact ⟨'D', 'E', ['B', 'U', 'G'], by decide⟩
  · exact ⟨'T', 'R', ['A', 'C', 'E'], by decide⟩

/-! ### Lines -/

/-- The message is what follows the target and its colon and space. -/
theorem Entry.messageOf_target {target : List Char} (black : ∀ c ∈ target, isBlank c = false)
    (message : List Char) : messageOf (target ++ ':' :: ' ' :: message) = message := by
  have spaceless : ' ' ∉ target := fun space => by simpa [isBlank] using black ' ' space
  have split : Text.splitOnce [':', ' '] (target ++ ':' :: ' ' :: message) =
      some (target, message) := by
    simpa using Text.splitOnce_append_of_not_mem (by decide) spaceless [] message
  simp [messageOf, split, spaceless]

namespace Event

variable {e : Event} {places : Nat}

/-- The parts of a line. -/
theorem toList_line (places : Nat) (e : Event) : (e.line places).toList =
    (e.time.stamp places).toList ++ ' ' :: (List.replicate (5 - e.level.name.length) ' ' ++
      (e.level.name.toList ++ ' ' :: (e.target.toList ++ ':' :: ' ' :: e.message.toList))) := by
  simp [line, Text.padLeft]

/-- The end of a line is that of its message. -/
theorem getLast?_line (plain : e.Plain) :
    (e.line places).toList.getLast? = e.message.toList.getLast? := by
  have some : e.message.toList ≠ [] := by simpa using plain.message
  rw [line, String.toList_append, List.getLast?_append, List.getLast?_eq_some_getLast some]
  rfl

/-- A line has no line feed in it. -/
theorem not_mem_line (plain : e.Plain) : '\n' ∉ (e.line places).toList := by
  have black {s : List Char} (all : ∀ c ∈ s, isBlank c = false) : '\n' ∉ s := fun member =>
    absurd (all '\n' member) (by decide)
  have stamp := black fun c member =>
    (Instant.isStampChar_of_mem plain.time places c member).isBlank
  have name : '\n' ∉ e.level.name.toList := by cases e.level <;> decide
  rw [toList_line]
  simp [stamp, name, black plain.target, plain.single]

/-- **A line gives the entry of its event**, whatever colons, spaces and names of levels there are
in the target and in the message. -/
theorem ofLine_line (few : places ≤ 9) (plain : e.Plain) :
    Entry.ofLine (e.line places).toList = some (e.entry places) := by
  obtain ⟨a, b, rest, name, distinct, strange⟩ := e.level.exists_name
  have letters := e.level.not_blank_name
  have stampChars := Instant.isStampChar_of_mem plain.time places
  have spaces : ∀ c ∈ List.replicate (5 - e.level.name.length) ' ', c = ' ' :=
    fun c => List.eq_of_mem_replicate
  have start : ∀ c ∈ (e.line places).toList.head?, isBlank c = false := by
    intro c first
    obtain ⟨d, ds, stamp⟩ := List.exists_cons_of_ne_nil (e.time.stamp_ne_nil places)
    rw [toList_line, stamp] at first
    cases first
    exact (stampChars c (by simp [stamp])).isBlank
  have trimmed : Text.trimChars (e.line places).toList = (e.line places).toList :=
    Text.trimChars_of_ends start (by rw [getLast?_line plain]; exact plain.ended)
  have filled : (e.line places).toList.isEmpty = false := by simp [toList_line]
  have words : Text.words (e.line places).toList = (e.time.stamp places).toList ::
      e.level.name.toList :: Text.words (e.target.toList ++ ':' :: ' ' :: e.message.toList) := by
    rw [toList_line, Text.words_append (e.time.stamp_ne_nil places)
      (fun c member => (stampChars c member).isBlank) rfl,
      Text.words_blanks_append (fun c member => by rw [spaces c member]; rfl),
      Text.words_append (by simp [name]) letters rfl]
  have found : Text.splitOnce e.level.name.toList (e.line places).toList =
      some ((e.time.stamp places).toList ++ ' ' :: List.replicate (5 - e.level.name.length) ' ',
        ' ' :: (e.target.toList ++ ':' :: ' ' :: e.message.toList)) := by
    have space : ' ' ≠ b := fun same => by
      simpa [← same, isBlank] using letters b (by simp [name])
    have fresh : b ∉ (e.time.stamp places).toList ++
        ' ' :: List.replicate (5 - e.level.name.length) ' ' := by
      simp only [List.mem_append, List.mem_cons, not_or]
      exact ⟨fun member => strange (stampChars b member), Ne.symm space,
        fun member => space (spaces b member).symm⟩
    rw [toList_line, name]
    simpa using Text.splitOnce_append_of_not_mem distinct fresh rest _
  have trailing : Text.trimStartChars (' ' :: (e.target.toList ++ ':' :: ' ' :: e.message.toList)) =
      e.target.toList ++ ':' :: ' ' :: e.message.toList := by
    have black : ∀ c ∈ (e.target.toList ++ ':' :: ' ' :: e.message.toList).head?,
        isBlank c = false := by
      intro c first
      cases target : e.target.toList with
      | nil =>
          rw [target] at first
          cases first
          rfl
      | cons d ds =>
          rw [target] at first
          cases first
          exact plain.target c (by simp [target])
    have space : ∀ c ∈ [' '], isBlank c = true := List.forall_mem_singleton.mpr rfl
    exact Text.trimStartChars_append space black
  rw [Entry.ofLine, trimmed, if_neg (by simp [filled]), words]
  simp only [Instant.parse?_stamp few plain.time, found, Option.map_some, Option.getD_some,
    trailing, Entry.messageOf_target plain.target, entry, String.ofList_toList, Level.ofText_name]

/-- The lines of events give their entries, in order. -/
theorem ofText_lines {events : List Event} (few : places ≤ 9) (plain : ∀ e ∈ events, e.Plain) :
    Entry.ofText (lines places events) = events.map (entry places) := by
  have single : ∀ line ∈ events.map (fun e => (e.line places).toList), '\n' ∉ line := by
    rintro _ member ended
    obtain ⟨e, event, rfl⟩ := List.mem_map.mp member
    exact not_mem_line (plain e event) ended
  have ends : ∀ line ∈ events.map (fun e => (e.line places).toList),
      line.getLast? ≠ some '\r' := by
    rintro _ member ended
    obtain ⟨e, event, rfl⟩ := List.mem_map.mp member
    rw [getLast?_line (plain e event)] at ended
    exact absurd ((plain e event).ended '\r' ended) (by decide)
  rw [Entry.ofText, lines, Text.lines_flatMap single ends, List.filterMap_map,
    ← List.filterMap_eq_map]
  refine List.filterMap_congr fun e event => ?_
  rw [Function.comp_apply, ofLine_line few (plain e event)]
  rfl

end Event

/-! ### Notes -/

/-- The event of a note at a time. -/
def Note.event (time : Instant) (n : Note) : Event := ⟨time, n.level, n.origin.target, n.text⟩

theorem Note.line_eq (time : Instant) (n : Note) : n.line time = (n.event time).line 9 := by
  rw [line, Event.line, event, Instant.stamp_nine]

/-- A note of one line gives one entry, with its level, its text and its time. -/
theorem Note.entries_of_plain {time : Instant} {n : Note} (plain : (n.event time).Plain) :
    n.entries time = [⟨n.level, n.text, some time⟩] := by
  have whole : time.cutTo 9 = time := by simp [Instant.cutTo]
  have one : (n.line time).toList ++ ['\n'] = Event.lines 9 [n.event time] := by
    simp [Event.lines, line_eq]
  rw [entries, one, Event.ofText_lines (Nat.le_refl 9) (by simpa using plain)]
  simp [Event.entry, event, whole]

/-! ### The buffer -/

/-- However many entries are added, the latest are kept. -/
theorem Buffer.entries_foldl_push (entries : List Entry) (b : Buffer) :
    (entries.foldl push b).entries =
      (b.entries ++ entries).drop (b.entries.length + entries.length - capacity) := by
  induction entries generalizing b with
  | nil =>
      have bounded := b.bounded
      simp [Nat.sub_eq_zero_of_le bounded]
  | cons e entries ih =>
      have bounded := b.bounded
      have room : b.entries.length + 1 - capacity ≤ (b.entries ++ [e]).length := by
        rw [List.length_append]
        exact Nat.sub_le _ _
      have pushed : (b.push e).entries.length =
          b.entries.length + 1 - (b.entries.length + 1 - capacity) := by simp [push]
      rw [List.foldl_cons, ih, pushed]
      simp only [push]
      rw [← List.drop_append_of_le_length room, List.drop_drop, List.append_assoc,
        List.singleton_append, List.length_cons]
      congr 1
      omega

/-! ### The pane -/

section Pane

variable {writes : List (List Event)} {places : Nat}

/-- **The log pane shows the log.** Events are written as lines, one or more of them at once. They
are delivered one by one, in order and each with its level, its message and its time to the places
of the stamps. When all are added to an empty buffer, it has the latest fifty of them, oldest first,
or all if there are fewer. -/
theorem shown_of_written (few : places ≤ 9) (plain : ∀ events ∈ writes, ∀ e ∈ events, e.Plain) :
    let delivered := writes.flatMap fun events =>
      Entry.ofBytes (Text.Utf8.encode (Event.lines places events))
    delivered = writes.flatten.map (Event.entry places) ∧
      (delivered.foldl Buffer.push .empty).entries =
        (writes.flatten.map (Event.entry places)).drop (writes.flatten.length - 50) := by
  intro delivered
  have each : delivered = writes.flatten.map (Event.entry places) := by
    rw [List.map_flatten, ← List.flatMap_def]
    refine List.flatMap_congr fun events member => ?_
    rw [Entry.ofBytes, Text.Utf8.decodeLossy_encode, Event.ofText_lines few (plain events member)]
  refine ⟨each, ?_⟩
  rw [Buffer.entries_foldl_push, each, List.length_map]
  simp only [Buffer.empty, List.nil_append, List.length_nil, Nat.zero_add, capacity]

/-- Two writes, with names of levels and colons in targets and in messages, and blanks before a
message. -/
theorem shown_of_two_writes :
    let time : Instant := ⟨1772446507, 498408123⟩
    let writes : List (List Event) :=
      [[⟨time, .warn, "a::WARN:", "  : INFO b: c"⟩, ⟨time, .error, "ERROR", "→ x\ty"⟩],
        [⟨time, .trace, "", "T"⟩]]
    Event.lines 6 writes.flatten =
        ("2026-03-02T10:15:07.498408Z  WARN a::WARN::   : INFO b: c\n" ++
          "2026-03-02T10:15:07.498408Z ERROR ERROR: → x\ty\n" ++
          "2026-03-02T10:15:07.498408Z TRACE : T\n").toList ∧
      (∀ events ∈ writes, ∀ e ∈ events, e.Plain) ∧
      (writes.flatMap fun events => Entry.ofBytes (Text.Utf8.encode (Event.lines 6 events))) =
        [⟨.warn, "  : INFO b: c", some ⟨1772446507, 498408000⟩⟩,
          ⟨.error, "→ x\ty", some ⟨1772446507, 498408000⟩⟩,
          ⟨.trace, "T", some ⟨1772446507, 498408000⟩⟩] := by
  intro time writes
  have stampable : time.Stampable := ⟨by decide, by decide⟩
  have target {s : List Char} (all : s.all (!isBlank ·) = true) : ∀ c ∈ s, isBlank c = false := by
    simpa using all
  have ended {s : List Char} {d : Char} (last : s.getLast? = some d) (black : isBlank d = false) :
      ∀ c ∈ s.getLast?, isBlank c = false := by
    rw [last]
    rintro c ⟨⟩
    exact black
  have plain : ∀ events ∈ writes, ∀ e ∈ events, e.Plain := by
    simp only [writes, List.forall_mem_cons, List.not_mem_nil, false_implies, implies_true,
      and_true]
    exact ⟨⟨⟨stampable, target (by decide), by decide, by decide, ended (d := 'c') (by decide) rfl⟩,
      ⟨stampable, target (by decide), by decide, by decide, ended (d := 'y') (by decide) rfl⟩⟩,
      ⟨stampable, target (by decide), by decide, by decide, ended (d := 'T') (by decide) rfl⟩⟩
  refine ⟨by decide +kernel, plain, ?_⟩
  rw [(shown_of_written (by decide : 6 ≤ 9) plain).1]
  simp [writes, time, Event.entry, Instant.cutTo]

end Pane

end Counsel.Log
