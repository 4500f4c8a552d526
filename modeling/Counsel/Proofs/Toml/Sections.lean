import Counsel.Proofs.Json.Number
import Counsel.Proofs.Toml.Quoted
import Counsel.Toml.Document

/-!
Texts of sections are read as tables.

A section is a header and lines below it, each with a key and the text of a value. If keys and names
need no quotes and every text is read as its value where the line ends (`Spells`), the text of the
sections has these statements and no others (`Reads`), and each statement adds one thing to the
tree: a header an empty table after those there are, an entry a value at the end of the last
table.

* `parse?_sectionsText`: sections with names of their own, each with keys of its own, are read as
  the table of their tables.
-/

namespace Counsel.Toml

open Decimal (IsDigits digitsValue)

/-! ### Numbers -/

section Numbers

variable {ds : List Char}

/-- A natural has a first digit. -/
theorem exists_digit (n : Nat) : ∃ d ds, Nat.toDigits 10 n = d :: ds ∧ d.isDigit = true := by
  obtain ⟨some, digits⟩ := Json.someDigits_toDigits n
  obtain ⟨d, ds, first⟩ := List.exists_cons_of_ne_nil some
  exact ⟨d, ds, first, digits d (first ▸ List.mem_cons_self)⟩

theorem readSeparated_append (digits : IsDigits ds) (rest : List Char) (more : Bool) :
    readSeparated Char.isDigit more (ds ++ '\n' :: rest) = some (ds, '\n' :: rest) := by
  induction ds generalizing more with
  | nil => rfl
  | cons d ds ih =>
      rw [IsDigits, List.forall_mem_cons] at digits
      rw [List.cons_append, readSeparated, if_pos digits.1, ih digits.2]
      rfl

/-- A natural is read as a whole number. -/
theorem readWhole_toDigits (n : Nat) (rest : List Char) :
    readWhole (Nat.toDigits 10 n ++ '\n' :: rest) = some (Nat.toDigits 10 n, '\n' :: rest) := by
  have digits : IsDigits (Nat.toDigits 10 n) := (Json.someDigits_toDigits n).2
  obtain ⟨d, ds, written, -⟩ := exists_digit n
  by_cases zero : d = '0'
  · have none : n = 0 := Json.eq_zero_of_leading (by rw [written, zero]; rfl)
    subst none
    rfl
  · rw [written, List.cons_append, readWhole]
    · rw [readDigits, ← List.cons_append, readSeparated_append (written ▸ digits)]
    · exact fun _ same => zero (List.cons.inj same).1

/-- No mark follows so many digits of a number. -/
theorem not_any_readDigits (digits : IsDigits ds) {mark : Char} (other : mark.isDigit = false)
    (inLine : mark ≠ '\n') (count : Nat) (rest : List Char) :
    ((Instant.readDigits count (ds ++ '\n' :: rest)).any fun (_, rest) => rest.head? = some mark) =
      false := by
  unfold Instant.readDigits
  dsimp only
  split
  · rename_i fits
    have within : count ≤ ds.length := by
      by_contra beyond
      have ended : '\n' ∈ (ds ++ '\n' :: rest).take count := by
        rw [List.mem_take_iff_getElem]
        exact ⟨ds.length, by simp; omega, by simp⟩
      exact absurd (List.all_eq_true.mp fits.2 '\n' ended) (by decide)
    have next : ((ds ++ '\n' :: rest).drop count).head? ≠ some mark := by
      rw [List.drop_append_of_le_length within]
      cases left : ds.drop count with
      | nil => simpa using Ne.symm inLine
      | cons d more =>
          have digit := digits d (List.mem_of_mem_drop (left ▸ List.mem_cons_self))
          rintro same
          cases same
          simp [other] at digit
    simpa using next
  · rfl

/-- The naturals among the integers of TOML. -/
theorem fits_natCast {n : Nat} : fits n = true ↔ n < 2 ^ 63 := by
  have scale : Int.pow 2 63 = 9223372036854775808 := by decide
  rw [fits, scale, Bool.and_eq_true, decide_eq_true_eq, decide_eq_true_eq]
  omega

theorem readSign_toDigits (n : Nat) (rest : List Char) :
    readSign (Nat.toDigits 10 n ++ rest) = (false, Nat.toDigits 10 n ++ rest) := by
  obtain ⟨d, ds, written, digit⟩ := exists_digit n
  obtain ⟨minus, plus⟩ := Decimal.not_sign_of_isDigit digit
  rw [written, List.cons_append, readSign]
  · exact fun _ same => plus (List.cons.inj same).1
  · exact fun _ same => minus (List.cons.inj same).1

/-- A natural on its own is no number with a fraction or an exponent. -/
theorem readFloat_toDigits (n : Nat) (rest : List Char) :
    readFloat (Nat.toDigits 10 n ++ '\n' :: rest) = none := by
  have special : readSpecial false (Nat.toDigits 10 n ++ '\n' :: rest) = none := by
    obtain ⟨d, ds, written, digit⟩ := exists_digit n
    rw [written, List.cons_append]
    unfold readSpecial
    split
    · rename_i same
      obtain ⟨rfl, -⟩ := List.cons.inj same
      cases digit
    · rename_i same
      obtain ⟨rfl, -⟩ := List.cons.inj same
      cases digit
    · rfl
  simp [readFloat, readSign_toDigits, special, readWhole_toDigits, readFraction, readExponent]

theorem readInteger_toDigits {n : Nat} (small : n < 2 ^ 63) (rest : List Char) :
    readInteger (Nat.toDigits 10 n ++ '\n' :: rest) = some (.integer n, '\n' :: rest) := by
  have value : digitsValue 0 (Nat.toDigits 10 n) = n :=
    Nat.ofDigitChars_toDigits (by decide) (by decide)
  have whole := readWhole_toDigits n rest
  -- A mark for a base would be read as what follows a zero.
  have unmarked (mark : Char) (other : mark ≠ '\n') (after : List Char) :
      Nat.toDigits 10 n ++ '\n' :: rest ≠ '0' :: mark :: after := by
    intro same
    rw [same] at whole
    exact other (List.cons.inj (Prod.mk.inj (Option.some.inj whole)).2).1
  unfold readInteger
  split
  · exact absurd ‹_› (unmarked 'x' (by decide) _)
  · exact absurd ‹_› (unmarked 'o' (by decide) _)
  · exact absurd ‹_› (unmarked 'b' (by decide) _)
  · rw [readSign_toDigits]
    refine Option.bind_eq_some_iff.mpr ⟨_, whole, ?_⟩
    dsimp only
    rw [value]
    exact if_pos (fits_natCast.mpr small)

/-- A natural is read back from its digits: they are no date and no time, as no mark follows. -/
theorem readNumber_toDigits {n : Nat} (small : n < 2 ^ 63) (rest : List Char) :
    readNumber (Nat.toDigits 10 n ++ '\n' :: rest) = some (.integer n, '\n' :: rest) := by
  have digits : IsDigits (Nat.toDigits 10 n) := (Json.someDigits_toDigits n).2
  have date : startsDate (Nat.toDigits 10 n ++ '\n' :: rest) = false :=
    not_any_readDigits digits (by decide) (by decide) 4 rest
  have time : startsTime (Nat.toDigits 10 n ++ '\n' :: rest) = false :=
    not_any_readDigits digits (by decide) (by decide) 2 rest
  rw [readNumber, date, time, readFloat_toDigits, readInteger_toDigits small]
  rfl

end Numbers

/-! ### Values -/

/-- A text that is read as a value where the line ends after it. -/
structure Spells (text : List Char) (v : Value) : Prop where
  start : ∀ c ∈ (text ++ ['\n']).head?, isSpace c = false
  read : ∀ fuel room rest,
    readValue (fuel + 1) room (text ++ '\n' :: rest) = some (v, '\n' :: rest)

/-- The text of a text. -/
theorem spells_quote (s : String) : Spells (quote s).toList (.text s) := by
  obtain ⟨c, rest, written, mark⟩ := head_quote s
  refine ⟨fun d first => ?_, fun fuel room after => ?_⟩
  · rw [written] at first
    cases first
    rcases mark with rfl | rfl <;> rfl
  · have ends : ∀ c ∈ ('\n' :: after).head?, c ≠ '"' ∧ c ≠ '\'' := by
      intro c first
      cases first
      decide
    have read := readText_quote s ends
    rw [written, List.cons_append] at read ⊢
    rcases mark with rfl | rfl
    · rw [readValue, read]
      rfl
    · rw [readValue, read]
      rfl

/-- The text of a natural. -/
theorem spells_natural {n : Nat} (small : n < 2 ^ 63) :
    Spells (toString n).toList (.integer n) := by
  have written : (toString n).toList = Nat.toDigits 10 n := Nat.toList_repr
  obtain ⟨d, ds, first, digit⟩ := exists_digit n
  have other {mark : Char} (unlike : mark.isDigit = false) : d ≠ mark := by
    rintro rfl
    simp [unlike] at digit
  rw [written]
  refine ⟨fun c head => ?_, fun fuel room rest => ?_⟩
  · rw [first] at head
    cases head
    simp [isSpace, other]
  · have read := readNumber_toDigits small rest
    rw [first, List.cons_append] at read ⊢
    rw [readValue, read]
    all_goals simp [other]

/-! ### Keys and statements -/

/-- A name that is a key without quotes. -/
def IsBareKey (name : String) : Prop := name ≠ "" ∧ name.toList.all isBare = true

instance (name : String) : Decidable (IsBareKey name) := inferInstanceAs (Decidable (_ ∧ _))

theorem IsBareKey.isBare_of_mem {name : String} (bare : IsBareKey name) :
    ∀ c ∈ name.toList, isBare c = true := List.all_eq_true.mp bare.2

theorem IsBareKey.exists_head {name : String} (bare : IsBareKey name) :
    ∃ d ds, name.toList = d :: ds ∧ isBare d = true := by
  obtain ⟨d, ds, first⟩ := List.exists_cons_of_ne_nil (mt String.toList_eq_nil_iff.mp bare.1)
  exact ⟨d, ds, first, bare.isBare_of_mem d (first ▸ List.mem_cons_self)⟩

theorem ne_of_isBare {c mark : Char} (bare : isBare c = true) (unlike : isBare mark = false) :
    c ≠ mark := by
  rintro rfl
  simp [unlike] at bare

theorem skipSpace_of_head {s : List Char} (start : ∀ c ∈ s.head?, isSpace c = false) :
    skipSpace s = s := by
  cases s with
  | nil => rfl
  | cons c s => exact List.dropWhile_cons_of_neg (by simp [start c rfl])

section Keys

variable {name : String} {gap rest : List Char} {c : Char}

theorem isSpace_of_isBare (bare : isBare c = true) : isSpace c = false := by
  simp [isSpace, ne_of_isBare bare (show isBare ' ' = false by decide),
    ne_of_isBare bare (show isBare '\t' = false by decide)]

theorem skipSpace_name (bare : IsBareKey name) (rest : List Char) :
    skipSpace (name.toList ++ rest) = name.toList ++ rest := by
  obtain ⟨d, ds, first, bareHead⟩ := bare.exists_head
  refine skipSpace_of_head fun c head => ?_
  rw [first] at head
  cases head
  exact isSpace_of_isBare bareHead

theorem readSimpleKey_bare (bare : IsBareKey name) (ends : ∀ c ∈ rest.head?, isBare c = false) :
    readSimpleKey (name.toList ++ rest) = some (name, rest) := by
  have taken : (name.toList ++ rest).takeWhile isBare = name.toList := by
    rw [List.takeWhile_append_of_pos bare.isBare_of_mem]
    cases rest with
    | nil => simp
    | cons c rest => simp [ends c rfl]
  obtain ⟨d, ds, first, bareHead⟩ := bare.exists_head
  have filled : name.toList.isEmpty = false := by rw [first]; rfl
  unfold readSimpleKey
  split
  · rename_i same
    rw [first] at same
    exact absurd (List.cons.inj same).1 (ne_of_isBare bareHead (by decide))
  · rename_i same
    rw [first] at same
    exact absurd (List.cons.inj same).1 (ne_of_isBare bareHead (by decide))
  · simp [taken, filled]

/-- A key without quotes is read up to the mark after it. -/
theorem readKey_bare (bare : IsBareKey name) (spaces : ∀ d ∈ gap, d = ' ')
    (ends : isBare c = false ∧ isSpace c = false ∧ c ≠ '.') :
    readKey (name.toList ++ (gap ++ c :: rest)) = some (([], name), c :: rest) := by
  have ended : ∀ d ∈ (gap ++ c :: rest).head?, isBare d = false := by
    intro d head
    cases gap with
    | nil =>
        cases head
        exact ends.1
    | cons space gap =>
        cases head
        rw [spaces d List.mem_cons_self]
        decide
  have passed : skipSpace (gap ++ c :: rest) = c :: rest := by
    rw [skipSpace, List.dropWhile_append_of_pos fun d member => by rw [spaces d member]; rfl]
    exact skipSpace_of_head fun d head => by cases head; exact ends.2.1
  have parts (fuel : Nat) : readKeyParts (fuel + 1) (name.toList ++ (gap ++ c :: rest)) =
      some ([name], c :: rest) := by
    rw [readKeyParts, skipSpace_name bare, readSimpleKey_bare bare ended]
    refine Option.bind_eq_some_iff.mpr ⟨_, rfl, ?_⟩
    dsimp only
    rw [passed]
    split
    · exact absurd (List.cons.inj ‹_›).1 ends.2.2
    · rfl
  rw [readKey, parts]
  rfl

end Keys

/-- What follows the end of a line that has nothing more. -/
theorem readLineEnd_newline (rest : List Char) : readLineEnd ('\n' :: rest) = some rest := rfl

/-- A header is read. -/
theorem readStatement_header {name : String} (bare : IsBareKey name) (rest : List Char) :
    readStatement ('[' :: (name.toList ++ ']' :: '\n' :: rest)) = some (.table [] name, rest) := by
  obtain ⟨d, ds, first, bareHead⟩ := bare.exists_head
  have key : readKey (name.toList ++ ([] ++ ']' :: '\n' :: rest)) =
      some (([], name), ']' :: '\n' :: rest) := readKey_bare bare (by simp) (by decide)
  rw [List.nil_append, first, List.cons_append] at key
  rw [first, List.cons_append, readStatement]
  · rw [key]
    rfl
  · intro _ same
    exact ne_of_isBare bareHead (show isBare '[' = false by decide) (List.cons.inj same).1

/-- An entry is read. -/
theorem readStatement_entry {key : String} {text : List Char} {v : Value} (bare : IsBareKey key)
    (spells : Spells text v) (rest : List Char) :
    readStatement (key.toList ++ ' ' :: '=' :: ' ' :: (text ++ '\n' :: rest)) =
      some (.entry [] key v, rest) := by
  obtain ⟨d, ds, first, bareHead⟩ := bare.exists_head
  have name : readKey (key.toList ++ ([' '] ++ '=' :: ' ' :: (text ++ '\n' :: rest))) =
      some (([], key), '=' :: ' ' :: (text ++ '\n' :: rest)) :=
    readKey_bare bare (by simp) (by decide)
  have passed : skipSpace (' ' :: (text ++ '\n' :: rest)) = text ++ '\n' :: rest := by
    have start : ∀ c ∈ (text ++ '\n' :: rest).head?, isSpace c = false := by
      intro c head
      refine spells.start c ?_
      cases text with
      | nil => exact head
      | cons => exact head
    have space : skipSpace (' ' :: (text ++ '\n' :: rest)) = skipSpace (text ++ '\n' :: rest) := rfl
    rw [space, skipSpace_of_head start]
  rw [List.singleton_append] at name
  have notBracket (after : List Char) :
      key.toList ++ ' ' :: '=' :: ' ' :: (text ++ '\n' :: rest) ≠ '[' :: after := by
    rw [first]
    intro same
    exact ne_of_isBare bareHead (show isBare '[' = false by decide) (List.cons.inj same).1
  unfold readStatement
  split
  · exact absurd ‹_› (notBracket _)
  · exact absurd ‹_› (notBracket _)
  · refine Option.bind_eq_some_iff.mpr ⟨_, name, ?_⟩
    refine Option.bind_eq_some_iff.mpr ⟨_, rfl, ?_⟩
    dsimp only
    rw [passed]
    refine Option.bind_eq_some_iff.mpr ⟨_, spells.read _ _ _, ?_⟩
    refine Option.bind_eq_some_iff.mpr ⟨_, readLineEnd_newline rest, ?_⟩
    rfl

/-! ### Texts -/

/-- The text has these statements. -/
def Reads (s : List Char) (statements : List Statement) : Prop :=
  ∀ fuel, s.length < fuel → readStatements fuel s = some statements

/-- Whether a character begins a statement's line, and nothing to be passed over. -/
def Begins (c : Char) : Prop := isSpace c = false ∧ c ≠ '#' ∧ c ≠ '\n' ∧ c ≠ '\r'

theorem begins_of_isBare {c : Char} (bare : isBare c = true) : Begins c :=
  ⟨isSpace_of_isBare bare, ne_of_isBare bare (by decide), ne_of_isBare bare (by decide),
    ne_of_isBare bare (by decide)⟩

section Reads

variable {s rest : List Char} {statement : Statement} {statements : List Statement}

theorem skipGap_of_begins {c : Char} (begins : Begins c) (s : List Char) (fuel : Nat) :
    skipGap (fuel + 1) (c :: s) = some (c :: s) := by
  have kept : skipSpace (c :: s) = c :: s :=
    skipSpace_of_head fun d head => by cases head; exact begins.1
  have inLine : readNewline (c :: s) = none := by
    unfold readNewline
    split
    · exact absurd (List.cons.inj ‹_›).1 begins.2.2.1
    · exact absurd (List.cons.inj ‹_›).1 begins.2.2.2
    · rfl
  rw [skipGap, kept]
  split
  · exact absurd (List.cons.inj ‹_›).1 begins.2.1
  · rw [inLine]

theorem Reads.nil : Reads [] [] := by
  intro fuel enough
  obtain ⟨fuel, rfl⟩ := Nat.exists_eq_add_one.mpr enough
  rfl

/-- An empty line is passed over. -/
theorem Reads.blank (reads : Reads s statements) : Reads ('\n' :: s) statements := by
  intro fuel enough
  obtain ⟨fuel, rfl⟩ := Nat.exists_eq_add_one.mpr (Nat.zero_lt_of_lt enough)
  have same : readStatements (fuel + 1) ('\n' :: s) = readStatements (fuel + 1) s := rfl
  rw [same]
  exact reads (fuel + 1) (Nat.lt_of_succ_lt enough)

theorem Reads.cons {c : Char} (begins : Begins c)
    (read : readStatement (c :: s) = some (statement, rest)) (shorter : rest.length ≤ s.length)
    (reads : Reads rest statements) : Reads (c :: s) (statement :: statements) := by
  intro fuel enough
  obtain ⟨fuel, rfl⟩ := Nat.exists_eq_add_one.mpr (Nat.zero_lt_of_lt enough)
  rw [readStatements, skipGap_of_begins begins]
  refine Option.bind_eq_some_iff.mpr ⟨_, rfl, ?_⟩
  dsimp only
  refine Option.bind_eq_some_iff.mpr ⟨_, read, ?_⟩
  refine Option.bind_eq_some_iff.mpr ⟨_, reads fuel ?_, rfl⟩
  rw [List.length_cons] at enough
  omega

end Reads

/-! ### Sections -/

/-- A line with a value: its key, the text of the value, and the value. -/
structure Line where
  key : String
  text : List Char
  value : Value

/-- A section: its name, and the lines below its header. -/
structure Section where
  name : String
  lines : List Line

def Line.chars (l : Line) : List Char := l.key.toList ++ ' ' :: '=' :: ' ' :: (l.text ++ ['\n'])

def Line.statement (l : Line) : Statement := .entry [] l.key l.value

def Line.slot (l : Line) : String × Slot := (l.key, .value l.value)

/-- A line is read as its key and its value. -/
structure Line.Plain (l : Line) : Prop where
  bare : IsBareKey l.key
  spells : Spells l.text l.value

/-- The line of a text. -/
def Line.ofText (key s : String) : Line := ⟨key, (quote s).toList, .text s⟩

/-- The line of a natural. -/
def Line.ofNatural (key : String) (n : Nat) : Line := ⟨key, (toString n).toList, .integer n⟩

theorem Line.Plain.ofText {key : String} (bare : IsBareKey key) (s : String) :
    (Line.ofText key s).Plain := by
  refine ⟨bare, ?_⟩
  dsimp only [Line.ofText]
  exact spells_quote s

theorem Line.Plain.ofNatural {key : String} {n : Nat} (bare : IsBareKey key) (small : n < 2 ^ 63) :
    (Line.ofNatural key n).Plain := ⟨bare, spells_natural small⟩

namespace Section

/-- The text of a section. -/
def chars (p : Section) : List Char :=
  '[' :: (p.name.toList ++ ']' :: '\n' :: p.lines.flatMap Line.chars)

def statements (p : Section) : List Statement := .table [] p.name :: p.lines.map Line.statement

/-- The table that a section makes. -/
def table (p : Section) : Value := .table (p.lines.map fun l => (l.key, l.value))

def slot (p : Section) : String × Slot := (p.name, .table .header (p.lines.map Line.slot))

/-- A section with a name that needs no quotes, and with lines of different keys. -/
structure Plain (p : Section) : Prop where
  bare : IsBareKey p.name
  lines : ∀ l ∈ p.lines, l.Plain
  distinct : (p.lines.map Line.key).Nodup

end Section

section Texts

variable {rest : List Char} {statements : List Statement}

theorem Line.Plain.reads {l : Line} (plain : l.Plain) (reads : Reads rest statements) :
    Reads (l.chars ++ rest) (l.statement :: statements) := by
  obtain ⟨d, ds, first, bareHead⟩ := plain.bare.exists_head
  have read := readStatement_entry plain.bare plain.spells rest
  have written : l.chars ++ rest =
      l.key.toList ++ ' ' :: '=' :: ' ' :: (l.text ++ '\n' :: rest) := by
    simp [chars]
  rw [written]
  rw [first, List.cons_append] at read ⊢
  refine .cons (begins_of_isBare bareHead) read ?_ reads
  simp only [List.length_append, List.length_cons]
  omega

theorem reads_lines {lines : List Line} (plain : ∀ l ∈ lines, l.Plain)
    (reads : Reads rest statements) :
    Reads (lines.flatMap Line.chars ++ rest) (lines.map Line.statement ++ statements) := by
  induction lines with
  | nil => exact reads
  | cons l lines ih =>
      rw [List.forall_mem_cons] at plain
      rw [List.flatMap_cons, List.append_assoc]
      exact plain.1.reads (ih plain.2)

theorem Section.Plain.reads {p : Section} (plain : p.Plain) (reads : Reads rest statements) :
    Reads (p.chars ++ rest) (p.statements ++ statements) := by
  have read := readStatement_header plain.bare (p.lines.flatMap Line.chars ++ rest)
  have written : p.chars ++ rest =
      '[' :: (p.name.toList ++ ']' :: '\n' :: (p.lines.flatMap Line.chars ++ rest)) := by
    simp [chars]
  rw [written]
  refine .cons ⟨by decide, by decide, by decide, by decide⟩ read ?_ (reads_lines plain.lines reads)
  simp only [List.length_append, List.length_cons]
  omega

/-- The text of sections, with an empty line between any two. -/
def sectionsText (sections : List Section) : List Char :=
  List.intercalate ['\n'] (sections.map Section.chars)

theorem reads_sectionsText {sections : List Section} (plain : ∀ p ∈ sections, p.Plain) :
    Reads (sectionsText sections) (sections.flatMap Section.statements) := by
  induction sections with
  | nil => exact .nil
  | cons p sections ih =>
      rw [List.forall_mem_cons] at plain
      cases sections with
      | nil => simpa [sectionsText, List.intercalate] using plain.1.reads .nil
      | cons q sections =>
          have between : sectionsText (p :: q :: sections) =
              p.chars ++ '\n' :: sectionsText (q :: sections) := by
            simp [sectionsText, List.intercalate]
          rw [between, List.flatMap_cons]
          exact plain.1.reads (ih plain.2).blank

theorem head_sectionsText {sections : List Section} {c : Char}
    (first : c ∈ (sectionsText sections).head?) : c = '[' := by
  cases sections with
  | nil => cases first
  | cons p sections =>
      cases sections <;>
      · simp only [sectionsText, List.intercalate, List.map_cons, List.map_nil,
          List.intersperse_singleton, List.intersperse_cons_cons, List.flatten_cons] at first
        cases first
        rfl

end Texts

/-! ### Tables -/

section Tables

variable {name : String} {done slots : Slots}

/-- A table is changed where it stands last. -/
theorem replaceSlot_last (fresh : name ∉ done.map Prod.fst) (old new : Slot) :
    replaceSlot name new (done ++ [(name, old)]) = done ++ [(name, new)] := by
  have others : done.map (fun s => if s.1 = name then (name, new) else s) = done := by
    refine (List.map_congr_left fun s member => ?_).trans (List.map_id done)
    exact if_neg fun same => fresh (List.mem_map.mpr ⟨s, member, same⟩)
  simp [replaceSlot, others]

theorem lookup_last (fresh : name ∉ done.map Prod.fst) (slot : Slot) :
    (done ++ [(name, slot)]).lookup name = some slot := by
  rw [List.lookup_append, Dict.lookup_of_notMem fresh]
  simp

/-- A header opens a table after those there are. -/
theorem apply_header (fresh : name ∉ done.map Prod.fst) (here : List String) :
    (Statement.table [] name).apply done here =
      some (done ++ [(name, .table .header [])], [name]) := by
  simp [Statement.apply, changeAt, openTable, Dict.lookup_of_notMem fresh]

/-- An entry comes after those of the last table. -/
theorem apply_entry {key : String} {v : Value} (fresh : name ∉ done.map Prod.fst)
    (new : key ∉ slots.map Prod.fst) :
    (Statement.entry [] key v).apply (done ++ [(name, .table .header slots)]) [name] =
      some (done ++ [(name, .table .header (slots ++ [(key, .value v)]))], [name]) := by
  simp only [Statement.apply, changeAt, lookup_last fresh, putValue, Dict.lookup_of_notMem new]
  simp [replaceSlot_last fresh]

/-- The lines of a section put their values after those of its table. -/
theorem foldlM_lines {lines : List Line} (fresh : name ∉ done.map Prod.fst)
    (distinct : (slots.map Prod.fst ++ lines.map Line.key).Nodup) :
    (lines.map Line.statement).foldlM (fun state (s : Statement) => s.apply state.1 state.2)
        (done ++ [(name, .table .header slots)], [name]) =
      some (done ++ [(name, .table .header (slots ++ lines.map Line.slot))], [name]) := by
  induction lines generalizing slots with
  | nil => simp
  | cons l lines ih =>
      have new : l.key ∉ slots.map Prod.fst := fun old =>
        (List.nodup_append.mp distinct).2.2 l.key old l.key List.mem_cons_self rfl
      have rest : ((slots ++ [l.slot]).map Prod.fst ++ lines.map Line.key).Nodup := by
        simpa [Line.slot] using distinct
      have next := ih rest
      rw [List.append_assoc] at next
      rw [List.map_cons, List.foldlM_cons, Line.statement]
      refine Option.bind_eq_some_iff.mpr ⟨_, apply_entry fresh new, ?_⟩
      exact next

/-- A section puts its table after those there are. -/
theorem foldlM_section {p : Section} (plain : p.Plain) (fresh : p.name ∉ done.map Prod.fst)
    (here : List String) :
    p.statements.foldlM (fun state (s : Statement) => s.apply state.1 state.2) (done, here) =
      some (done ++ [p.slot], [p.name]) := by
  rw [Section.statements, List.foldlM_cons]
  refine Option.bind_eq_some_iff.mpr ⟨_, apply_header fresh here, ?_⟩
  exact foldlM_lines fresh plain.distinct

theorem foldlM_sections {sections : List Section} (plain : ∀ p ∈ sections, p.Plain)
    (distinct : (done.map Prod.fst ++ sections.map Section.name).Nodup) (here : List String) :
    ∃ last, (sections.flatMap Section.statements).foldlM
        (fun state (s : Statement) => s.apply state.1 state.2) (done, here) =
      some (done ++ sections.map Section.slot, last) := by
  induction sections generalizing done here with
  | nil => exact ⟨here, by simp⟩
  | cons p sections ih =>
      rw [List.forall_mem_cons] at plain
      have fresh : p.name ∉ done.map Prod.fst := fun old =>
        (List.nodup_append.mp distinct).2.2 p.name old p.name List.mem_cons_self rfl
      have rest : ((done ++ [p.slot]).map Prod.fst ++ sections.map Section.name).Nodup := by
        simpa [Section.slot] using distinct
      obtain ⟨last, built⟩ := ih plain.2 rest [p.name]
      refine ⟨last, ?_⟩
      rw [List.flatMap_cons, List.foldlM_append]
      refine Option.bind_eq_some_iff.mpr ⟨_, foldlM_section plain.1 fresh here, ?_⟩
      rw [built, List.append_assoc]
      rfl

theorem slotValues_lines (lines : List Line) :
    slotValues (lines.map Line.slot) = lines.map fun l => (l.key, l.value) := by
  induction lines with
  | nil => rfl
  | cons l lines ih => rw [List.map_cons, Line.slot, slotValues, ih, Slot.toValue, List.map_cons]

theorem slotValues_sections (sections : List Section) :
    slotValues (sections.map Section.slot) = sections.map fun p => (p.name, p.table) := by
  induction sections with
  | nil => rfl
  | cons p sections ih =>
      rw [List.map_cons, Section.slot, slotValues, ih, Slot.toValue, slotValues_lines,
        List.map_cons]
      rfl

end Tables

/-- **A text of sections is read as the table of their tables**, each of which has the values of its
lines. -/
theorem parse?_sectionsText {sections : List Section} (plain : ∀ p ∈ sections, p.Plain)
    (distinct : (sections.map Section.name).Nodup) :
    parse? (.ofList (sectionsText sections)) =
      some (.table (sections.map fun p => (p.name, p.table))) := by
  have read := reads_sectionsText plain
  have assembled : assemble (sections.flatMap Section.statements) =
      some (.table (sections.map fun p => (p.name, p.table))) := by
    have fresh : (([] : Slots).map Prod.fst ++ sections.map Section.name).Nodup := distinct
    obtain ⟨last, built⟩ := foldlM_sections plain fresh []
    rw [← slotValues_sections]
    exact Option.map_eq_some_iff.mpr ⟨_, built, rfl⟩
  have unmarked : parse? (.ofList (sectionsText sections)) =
      (readStatements ((sectionsText sections).length + 1) (sectionsText sections)).bind
        assemble := by
    rw [parse?, String.toList_ofList]
    cases text : sectionsText sections with
    | nil => rfl
    | cons c rest =>
        obtain rfl := head_sectionsText (show c ∈ (sectionsText sections).head? by rw [text]; rfl)
        rfl
  rw [unmarked, read _ (Nat.lt_succ_self _)]
  exact assembled

end Counsel.Toml
