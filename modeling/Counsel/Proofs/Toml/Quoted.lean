import Counsel.Proofs.Json.Reading
import Counsel.Toml.Quoted
import Counsel.Toml.Scalar

/-!
Quoted texts are read back.

Each of the four kinds of quotes has its reader. What a text must be like for its quotes is what
`quotesFor` asks: between apostrophes nothing is escaped, so there is nothing that would need it,
and no run of apostrophes that would close the text. Between quotes a character stands for itself or
is escaped (`Stands`), and of a run of quotes every third is escaped, so a closing is met only at
the end, where what is left is quotes (`escapeText_run`).

* `readText_quote`: a text is read back from the quotes it is written in, whatever it is.
-/

namespace Counsel.Toml

/-! ### Characters between quotes -/

/-- What a character is written as between quotes: itself, a short escape, or its number. A line
end is written as itself in a long text. -/
inductive Stands (long : Bool) (c : Char) : List Char → Prop
  | plain (inner : isInner c = true) (quote : c ≠ '"') (slash : c ≠ '\\') : Stands long c [c]
  | line (several : long = true) (line : c = '\n') : Stands long c [c]
  | short {e : Char} (short : shortEscape? e = some c) : Stands long c ['\\', e]
  | number {h i j k : Char} (number : scalar? [h, i, j, k] = some c) :
      Stands long c ['\\', 'u', h, i, j, k]

theorem hexValue?_escapeDigit (n : Nat) : Json.hexValue? (escapeDigit n) = some (n % 16) := by
  have digits : ∀ m < 16, Json.hexValue? (Nat.digitChar m).toUpper = some m := by decide
  exact digits (n % 16) (Nat.mod_lt n (by decide))

/-- Two digits are the number of a character that has no more. -/
theorem scalar?_escapeDigits {c : Char} (low : c.toNat < 256) :
    scalar? ['0', '0', escapeDigit (c.toNat / 16), escapeDigit c.toNat] = some c := by
  have zero : Json.hexValue? '0' = some 0 := rfl
  have value : ((0 * 16 + 0) * 16 + c.toNat / 16 % 16) * 16 + c.toNat % 16 = c.toNat := by omega
  have digits : (['0', '0', escapeDigit (c.toNat / 16), escapeDigit c.toNat].mapM
      Json.hexValue?).map (fun ns => ns.foldl (fun n d => n * 16 + d) 0) = some c.toNat := by
    simp only [List.mapM_cons, List.mapM_nil, zero, hexValue?_escapeDigit]
    simpa using value
  have same : Char.ofNatAux c.toNat c.valid = c := Char.toNat_inj.mp rfl
  rw [scalar?, digits]
  exact (dif_pos c.valid).trans (congrArg some same)

/-- What needs no escape may stand in a quoted text, but for a line end. -/
theorem isInner_of_not_needsEscape {c : Char} (free : needsEscape c = false) (line : c ≠ '\n') :
    isInner c = true := by
  simp only [needsEscape, Bool.or_eq_false_iff, Bool.and_eq_false_iff, decide_eq_false_iff_not,
    not_not] at free
  simp only [isInner, Bool.or_eq_true, Bool.and_eq_true, decide_eq_true_eq]
  rcases free.1 with (printable | tab) | same
  · exact .inr ⟨Nat.le_of_not_lt printable, free.2⟩
  · exact .inl tab
  · exact absurd same line

/-- A character other than a quote, and other than a line end in a short text, stands as it is
escaped. -/
theorem stands_escapeChar {long : Bool} {c : Char} (quote : c ≠ '"')
    (line : c = '\n' → long = true) : Stands long c (escapeChar c) := by
  unfold escapeChar
  split
  · obtain rfl : c = '\x08' := Char.toNat_inj.mp ‹_›
    exact .short rfl
  split
  · obtain rfl : c = '\t' := ‹_›
    exact .short rfl
  split
  · obtain rfl : c = '\x0c' := Char.toNat_inj.mp ‹_›
    exact .short rfl
  split
  · obtain rfl : c = '\r' := ‹_›
    exact .short rfl
  split
  · obtain rfl : c = '\\' := ‹_›
    exact .short rfl
  split
  · refine .number (scalar?_escapeDigits ?_)
    simp only [needsEscape, Bool.or_eq_true, Bool.and_eq_true, decide_eq_true_eq] at *
    omega
  · by_cases same : c = '\n'
    · exact .line (line same) same
    · exact .plain (isInner_of_not_needsEscape (Bool.eq_false_iff.mpr ‹_›) same) quote ‹_›

theorem Stands.ne_nil {long : Bool} {c : Char} {written : List Char}
    (stands : Stands long c written) : written ≠ [] := by
  cases stands <;> simp

/-- No character but a quote is written with a quote first. -/
theorem Stands.takeWhile_append {long : Bool} {c : Char} {written : List Char}
    (stands : Stands long c written) (tail : List Char) :
    (written ++ tail).takeWhile (· = '"') = [] := by
  cases stands with
  | plain _ quote _ => simp [quote]
  | line _ line => simp [line]
  | short _ => rfl
  | number _ => rfl

/-- A short escape is not taken for a number. -/
theorem not_u_of_shortEscape {c e : Char} (short : shortEscape? e = some c) :
    e ≠ 'u' ∧ e ≠ 'U' := by
  constructor <;>
  · rintro rfl
    cases short

section Basic

variable {c : Char} {written rest : List Char}

theorem readBasic_stands (stands : Stands false c written) :
    readBasic (written ++ rest) = (readBasic rest).map fun (s, rest) => (c :: s, rest) := by
  cases stands with
  | plain inner quote slash =>
      rw [List.singleton_append, readBasic]
      · rw [if_pos ⟨inner, slash⟩]
      all_goals simp [quote, slash]
  | line several _ => cases several
  | short short =>
      obtain ⟨notU, notLong⟩ := not_u_of_shortEscape short
      rw [List.cons_append, List.singleton_append, readBasic]
      · rw [short]
        exact (Option.map_eq_bind ..).symm
      all_goals simp [notU, notLong]
  | number number =>
      simp only [List.cons_append, List.nil_append, readBasic, number]
      exact (Option.map_eq_bind ..).symm

/-- In a short text each character is written on its own. -/
theorem escapeText_cons (c : Char) (s : List Char) (run : Nat) :
    ∃ written, Stands false c written ∧
      escapeText false run (c :: s) = written ++ escapeText false 0 s := by
  by_cases quote : c = '"'
  · exact ⟨['\\', '"'], .short (by rw [quote]; rfl), by simp [escapeText, quote]⟩
  by_cases line : c = '\n'
  · exact ⟨['\\', 'n'], .short (by rw [line]; rfl), by simp [escapeText, line]⟩
  · exact ⟨escapeChar c, stands_escapeChar quote fun same => absurd same line,
      by simp [escapeText, quote, line]⟩

/-- A text between quotes is read back. -/
theorem readBasic_escapeText (s rest : List Char) (run : Nat) :
    readBasic (escapeText false run s ++ '"' :: rest) = some (s, rest) := by
  induction s generalizing run with
  | nil => rfl
  | cons c s ih =>
      obtain ⟨written, stands, escaped⟩ := escapeText_cons c s run
      rw [escaped, List.append_assoc, readBasic_stands stands, ih]
      rfl

end Basic

/-! ### Between apostrophes -/

/-- A text without apostrophes is read back from between them. -/
theorem readLiteral_append {s : List Char} (inner : ∀ c ∈ s, isInner c = true)
    (fresh : '\'' ∉ s) (rest : List Char) : readLiteral (s ++ '\'' :: rest) = some (s, rest) := by
  induction s with
  | nil => rfl
  | cons c s ih =>
      rw [List.forall_mem_cons] at inner
      rw [List.mem_cons, not_or] at fresh
      rw [List.cons_append, readLiteral]
      · rw [if_pos inner.1, ih inner.2 fresh.2]
        rfl
      · exact fun same => fresh.1 same.symm

/-! ### The end of a long text -/

section Closing

variable {mark : Char} {s : List Char}

/-- Up to two marks before those that close a long text are its own. -/
theorem readClosing_replicate {k : Nat} (few : k ≤ 2) {rest : List Char}
    (ends : ∀ c ∈ rest.head?, c ≠ mark) :
    readClosing mark (List.replicate k mark ++ (List.replicate 3 mark ++ rest)) =
      some (List.replicate k mark, rest) := by
  have stop : rest.takeWhile (· = mark) = [] := by
    cases rest with
    | nil => rfl
    | cons c rest => simp [ends c rfl]
  have all : ∀ c ∈ List.replicate (k + 3) mark, decide (c = mark) = true :=
    fun c member => decide_eq_true (List.eq_of_mem_replicate member)
  rw [← List.append_assoc, List.replicate_append_replicate, readClosing,
    List.takeWhile_append_of_pos all, stop, List.append_nil, List.length_replicate,
    if_neg (by omega), Nat.add_sub_cancel, Nat.min_eq_left few]
  simp

/-- Fewer than three marks close nothing. -/
theorem readClosing_eq_none (few : (s.takeWhile (· = mark)).length ≤ 2) :
    readClosing mark s = none := if_pos (by omega)

/-- The marks at the start of a text without three of them in a row: they are all of it, or too few
to close it, whatever follows. -/
theorem longestRun_spec {run : Nat} (few : longestRun mark run s ≤ 2) :
    (∃ k, run + k ≤ 2 ∧ s = List.replicate k mark) ∨
      ∀ tail, run + ((s ++ tail).takeWhile (· = mark)).length ≤ 2 := by
  induction s generalizing run with
  | nil => exact .inl ⟨0, few, rfl⟩
  | cons c s ih =>
      rw [longestRun] at few
      by_cases same : c = mark
      · rw [if_pos same] at few
        rcases ih few with ⟨k, most, rfl⟩ | fewer
        · exact .inl ⟨k + 1, by omega, by rw [same, List.replicate_succ]⟩
        · refine .inr fun tail => ?_
          have := fewer tail
          simp only [List.cons_append, List.takeWhile_cons, same, decide_true, if_true,
            List.length_cons]
          omega
      · rw [if_neg same] at few
        refine .inr fun tail => ?_
        simp only [List.cons_append, List.takeWhile_cons, same, decide_false]
        exact Nat.le_trans (Nat.le_max_left ..) few

theorem le_longestRun (mark : Char) (run : Nat) (s : List Char) : run ≤ longestRun mark run s := by
  induction s generalizing run with
  | nil => exact Nat.le_refl run
  | cons c s ih =>
      rw [longestRun]
      split
      · exact Nat.le_of_succ_le (ih (run + 1))
      · exact Nat.le_max_left ..

theorem not_mem_of_longestRun (none : longestRun mark 0 s = 0) : mark ∉ s := by
  induction s with
  | nil => exact List.not_mem_nil
  | cons c s ih =>
      rw [longestRun] at none
      split at none
      · have := le_longestRun mark (0 + 1) s
        omega
      · rw [List.mem_cons, not_or]
        exact ⟨Ne.symm ‹_›, ih (by omega)⟩

theorem longestRun_tail {c : Char} {run : Nat} (few : longestRun mark run (c :: s) ≤ 2) :
    ∃ run, longestRun mark run s ≤ 2 := by
  rw [longestRun] at few
  split at few
  · exact ⟨run + 1, few⟩
  · exact ⟨0, Nat.le_trans (Nat.le_max_right ..) few⟩

end Closing

/-! ### Long texts between apostrophes -/

section LongLiteral

variable {c : Char} {s rest : List Char} {fuel : Nat}

theorem readLongLiteral_closing {k : Nat} (few : k ≤ 2) (ends : ∀ c ∈ rest.head?, c ≠ '\'') :
    readLongLiteral (fuel + 1) (List.replicate k '\'' ++ (List.replicate 3 '\'' ++ rest)) =
      some (List.replicate k '\'', rest) := by
  simp only [readLongLiteral, readClosing_replicate few ends]

theorem readLongLiteral_cons (opened : readClosing '\'' (c :: rest) = none)
    (inner : c = '\n' ∨ isInner c = true) :
    readLongLiteral (fuel + 1) (c :: rest) =
      (readLongLiteral fuel rest).map fun (s, rest) => (c :: s, rest) := by
  have printed : c ≠ '\r' := by
    rintro rfl
    exact absurd inner (by decide)
  simp only [readLongLiteral, opened]
  split
  · contradiction
  · rename_i same
    exact absurd (List.cons.inj same).1 printed
  · rename_i same
    obtain ⟨rfl, rfl⟩ := List.cons.inj same
    exact if_pos inner

/-- A text without three apostrophes in a row is read back from between them. -/
theorem readLongLiteral_append {run : Nat} (inner : ∀ c ∈ s, c = '\n' ∨ isInner c = true)
    (few : longestRun '\'' run s ≤ 2) (enough : s.length < fuel)
    (ends : ∀ c ∈ rest.head?, c ≠ '\'') :
    readLongLiteral fuel (s ++ (List.replicate 3 '\'' ++ rest)) = some (s, rest) := by
  induction s generalizing run fuel with
  | nil =>
      obtain ⟨fuel, rfl⟩ := Nat.exists_eq_add_one.mpr enough
      exact readLongLiteral_closing (Nat.zero_le 2) ends
  | cons c s ih =>
      obtain ⟨fuel, rfl⟩ := Nat.exists_eq_add_one.mpr (Nat.zero_lt_of_lt enough)
      rcases longestRun_spec few with ⟨k, most, same⟩ | fewer
      · rw [same]
        exact readLongLiteral_closing (by omega) ends
      · have opened : readClosing '\'' (c :: s ++ (List.replicate 3 '\'' ++ rest)) = none :=
          readClosing_eq_none (Nat.le_trans (Nat.le_add_left ..) (fewer _))
        rw [List.forall_mem_cons] at inner
        obtain ⟨run, later⟩ := longestRun_tail few
        rw [List.cons_append] at opened ⊢
        rw [readLongLiteral_cons opened inner.1, ih inner.2 later (Nat.lt_of_succ_lt_succ enough)]
        rfl

end LongLiteral

/-! ### Long texts between quotes -/

section LongBasic

variable {c : Char} {s written rest : List Char} {fuel run : Nat}

/-- The quotes at the start of a text as it is escaped: they are all that is left of it, or too few
to close it, whatever follows. -/
theorem escapeText_run (few : run ≤ 2) :
    (∃ k, run + k ≤ 2 ∧ s = List.replicate k '"' ∧ escapeText true run s = List.replicate k '"') ∨
      ∀ tail, run + ((escapeText true run s ++ tail).takeWhile (· = '"')).length ≤ 2 := by
  induction s generalizing run with
  | nil => exact .inl ⟨0, few, rfl, rfl⟩
  | cons c s ih =>
      rw [escapeText]
      by_cases quote : c = '"'
      · rw [if_pos quote]
        by_cases room : run < 2
        · rw [if_pos ⟨rfl, room⟩]
          rcases ih (show run + 1 ≤ 2 from room) with ⟨k, most, rfl, same⟩ | fewer
          · exact .inl ⟨k + 1, by omega, by rw [quote, List.replicate_succ],
              by rw [same, List.replicate_succ]⟩
          · refine .inr fun tail => ?_
            have := fewer tail
            simp only [List.cons_append, List.takeWhile_cons, decide_true, if_true,
              List.length_cons]
            omega
        · rw [if_neg (by simp [room])]
          exact .inr fun tail => few
      · rw [if_neg quote, if_neg (by simp)]
        refine .inr fun tail => ?_
        have stands : Stands true c (escapeChar c) := stands_escapeChar quote fun _ => rfl
        rw [List.append_assoc, stands.takeWhile_append]
        exact few

theorem readLongBasic_closing {k : Nat} (few : k ≤ 2) (ends : ∀ c ∈ rest.head?, c ≠ '"') :
    readLongBasic (fuel + 1) (List.replicate k '"' ++ (List.replicate 3 '"' ++ rest)) =
      some (List.replicate k '"', rest) := by
  simp only [readLongBasic, readClosing_replicate few ends]

/-- A quote that does not close the text, a line end and what may stand in a text stand for
themselves. -/
theorem readLongBasic_cons (opened : readClosing '"' (c :: rest) = none)
    (inner : c = '\n' ∨ (isInner c = true ∧ c ≠ '\\')) :
    readLongBasic (fuel + 1) (c :: rest) =
      (readLongBasic fuel rest).map fun (s, rest) => (c :: s, rest) := by
  have printed : c ≠ '\r' := by
    rintro rfl
    exact absurd inner (by decide)
  have slash : c ≠ '\\' := by
    rintro rfl
    exact absurd inner (by decide)
  simp only [readLongBasic, opened]
  split
  · contradiction
  · rename_i same
    exact absurd (List.cons.inj same).1 printed
  · rename_i same
    exact absurd (List.cons.inj same).1 slash
  · rename_i same
    exact absurd (List.cons.inj same).1 slash
  · rename_i same
    exact absurd (List.cons.inj same).1 slash
  · rename_i same
    obtain ⟨rfl, rfl⟩ := List.cons.inj same
    exact if_pos inner

theorem readLongBasic_stands (stands : Stands true c written) :
    readLongBasic (fuel + 1) (written ++ rest) =
      (readLongBasic fuel rest).map fun (s, rest) => (c :: s, rest) := by
  have opened : readClosing '"' (written ++ rest) = none :=
    readClosing_eq_none (by simp [stands.takeWhile_append])
  cases stands with
  | plain inner _ slash => exact readLongBasic_cons opened (.inr ⟨inner, slash⟩)
  | line _ line => exact readLongBasic_cons opened (.inl line)
  | short short =>
      obtain ⟨notU, notLong⟩ := not_u_of_shortEscape short
      rw [List.cons_append, List.singleton_append] at opened ⊢
      simp only [readLongBasic, opened]
      split
      · contradiction
      · rename_i same
        cases same
      · rename_i same
        cases same
        exact absurd rfl notU
      · rename_i same
        cases same
        exact absurd rfl notLong
      · rename_i same
        cases same
        rw [short]
      · rename_i other same
        cases same
        exact (other _ _ rfl rfl).elim
  | number number =>
      simp only [readLongBasic, opened]
      simp [number]

/-- A text between long quotes is read back. -/
theorem readLongBasic_escapeText (few : run ≤ 2) (enough : s.length < fuel)
    (ends : ∀ c ∈ rest.head?, c ≠ '"') :
    readLongBasic fuel (escapeText true run s ++ (List.replicate 3 '"' ++ rest)) =
      some (s, rest) := by
  induction s generalizing run fuel with
  | nil =>
      obtain ⟨fuel, rfl⟩ := Nat.exists_eq_add_one.mpr enough
      exact readLongBasic_closing (Nat.zero_le 2) ends
  | cons c s ih =>
      obtain ⟨fuel, rfl⟩ := Nat.exists_eq_add_one.mpr (Nat.zero_lt_of_lt enough)
      have less : s.length < fuel := Nat.lt_of_succ_lt_succ enough
      rcases escapeText_run (s := c :: s) few with ⟨k, most, same, escaped⟩ | fewer
      · rw [escaped, same]
        exact readLongBasic_closing (by omega) ends
      have opened : readClosing '"'
          (escapeText true run (c :: s) ++ (List.replicate 3 '"' ++ rest)) = none :=
        readClosing_eq_none (Nat.le_trans (Nat.le_add_left ..) (fewer _))
      have next {written : List Char} (stands : Stands true c written) :
          readLongBasic (fuel + 1) (written ++ escapeText true 0 s ++
            (List.replicate 3 '"' ++ rest)) = some (c :: s, rest) := by
        rw [List.append_assoc, readLongBasic_stands stands, ih (Nat.zero_le 2) less]
        rfl
      rw [escapeText] at opened ⊢
      by_cases quote : c = '"'
      · subst quote
        rw [if_pos rfl] at opened ⊢
        by_cases room : run < 2
        · rw [if_pos ⟨rfl, room⟩, List.cons_append] at opened ⊢
          rw [readLongBasic_cons opened (.inr (by decide)), ih room less]
          rfl
        · rw [if_neg (by simp [room])]
          exact next (.short rfl)
      · rw [if_neg quote, if_neg (by simp)]
        exact next (stands_escapeChar quote fun _ => rfl)

/-- Every character is written as one at least. -/
theorem length_le_escapeText (run : Nat) (s : List Char) :
    s.length ≤ (escapeText true run s).length := by
  induction s generalizing run with
  | nil => exact Nat.le_refl 0
  | cons c s ih =>
      have next {written : List Char} (some : written ≠ []) (run : Nat) :
          (c :: s).length ≤ (written ++ escapeText true run s).length := by
        have := ih run
        have := List.length_pos_iff.mpr some
        simp only [List.length_append, List.length_cons]
        omega
      rw [escapeText]
      split
      · split
        · exact next (List.cons_ne_nil '"' []) _
        · exact next (List.cons_ne_nil '\\' ['"']) _
      · rw [if_neg (by simp)]
        exact next (stands_escapeChar ‹_› fun _ => rfl).ne_nil 0

end LongBasic

/-! ### How a quoted text begins -/

/-- A long text is read without the line end that it may start with. -/
theorem dropFirstNewline_of_head {s : List Char} (first : ∀ c ∈ s.head?, c ≠ '\n' ∧ c ≠ '\r') :
    dropFirstNewline s = s := by
  unfold dropFirstNewline readNewline
  split
  · exact absurd rfl (first '\n' rfl).1
  · exact absurd rfl (first '\r' rfl).2
  · rfl

section Opening

variable {s rest u : List Char}

/-- A text of several lines begins on a line of its own. -/
theorem dropFirstNewline_start (first : '\n' ∉ s → ∀ c ∈ u.head?, c ≠ '\n' ∧ c ≠ '\r') :
    dropFirstNewline ((if s.contains '\n' then ['\n'] else []) ++ u) = u := by
  by_cases lines : '\n' ∈ s
  · rw [if_pos (by simpa using lines)]
    rfl
  · rw [if_neg (by simpa using lines)]
    exact dropFirstNewline_of_head (first lines)

/-- Between long quotes a text does not begin with a line end, unless it has one. -/
theorem head_escapeText (single : '\n' ∉ s) (rest : List Char) :
    ∀ c ∈ (escapeText true 0 s ++ '"' :: rest).head?, c ≠ '\n' ∧ c ≠ '\r' := by
  intro d first
  cases s with
  | nil =>
      cases first
      decide
  | cons c s =>
      rw [escapeText] at first
      split at first
      · cases first
        decide
      rename_i quote
      rw [if_neg (by simp), List.append_assoc] at first
      have stands : Stands true c (escapeChar c) := stands_escapeChar quote fun _ => rfl
      generalize escapeChar c = written at stands first
      cases stands with
      | plain inner _ _ =>
          cases first
          refine ⟨fun same => single (same ▸ List.mem_cons_self), ?_⟩
          rintro rfl
          cases inner
      | line _ line => exact absurd (line ▸ List.mem_cons_self) single
      | short _ | number _ =>
          cases first
          decide

theorem readText_short (other : ∀ rest, u ≠ '"' :: '"' :: rest) :
    readText ('"' :: u) = (readBasic u).map fun (s, rest) => (.ofList s, rest) := by
  unfold readText
  dsimp only
  split
  · rename_i same
    exact absurd (List.cons.inj same).2 (other _)
  · rename_i same
    rw [(List.cons.inj same).2]
  all_goals simp_all

theorem readText_apostrophe (other : ∀ rest, u ≠ '\'' :: '\'' :: rest) :
    readText ('\'' :: u) = (readLiteral u).map fun (s, rest) => (.ofList s, rest) := by
  unfold readText
  dsimp only
  split
  · rename_i same
    cases same
  · rename_i same
    cases same
  · rename_i same
    exact absurd (List.cons.inj same).2 (other _)
  · rename_i same
    rw [(List.cons.inj same).2]
  · simp_all

/-- Between long apostrophes a text does not begin with a line end, unless it has one. -/
theorem head_inner (inner : ∀ c ∈ s, c = '\n' ∨ isInner c = true) (single : '\n' ∉ s)
    (rest : List Char) : ∀ c ∈ (s ++ '\'' :: rest).head?, c ≠ '\n' ∧ c ≠ '\r' := by
  intro d first
  cases s with
  | nil =>
      cases first
      decide
  | cons c s =>
      cases first
      refine ⟨fun same => single (same ▸ List.mem_cons_self), ?_⟩
      rintro rfl
      exact absurd (inner '\r' List.mem_cons_self) (by decide)

end Opening

/-! ### Any quotes -/

section Any

variable {s rest : List Char}

theorem readText_basic (ends : ∀ c ∈ rest.head?, c ≠ '"') :
    readText (quoteIn .basic s ++ rest) = some (.ofList s, rest) := by
  have written : quoteIn .basic s ++ rest = '"' :: (escapeText false 0 s ++ '"' :: rest) := by
    simp [quoteIn, Quotes.delimiter, Quotes.isLong, Quotes.hasEscapes]
  have other : ∀ r, escapeText false 0 s ++ '"' :: rest ≠ '"' :: '"' :: r := by
    intro r same
    cases s with
    | nil =>
        obtain rfl := (List.cons.inj same).2
        exact ends '"' rfl rfl
    | cons c s =>
        obtain ⟨written, stands, escaped⟩ := escapeText_cons c s 0
        have first := stands.takeWhile_append (escapeText false 0 s ++ '"' :: rest)
        rw [← List.append_assoc, ← escaped, same] at first
        cases first
  rw [written, readText_short other, readBasic_escapeText]
  rfl

theorem readText_literal (inner : ∀ c ∈ s, isInner c = true) (fresh : '\'' ∉ s)
    (ends : ∀ c ∈ rest.head?, c ≠ '\'') :
    readText (quoteIn .literal s ++ rest) = some (.ofList s, rest) := by
  have written : quoteIn .literal s ++ rest = '\'' :: (s ++ '\'' :: rest) := by
    simp [quoteIn, Quotes.delimiter, Quotes.isLong, Quotes.hasEscapes]
  have other : ∀ r, s ++ '\'' :: rest ≠ '\'' :: '\'' :: r := by
    intro r same
    cases s with
    | nil =>
        obtain rfl := (List.cons.inj same).2
        exact ends '\'' rfl rfl
    | cons c s => exact fresh ((List.cons.inj same).1 ▸ List.mem_cons_self)
  rw [written, readText_apostrophe other, readLiteral_append inner fresh]
  rfl

theorem readText_longBasic (ends : ∀ c ∈ rest.head?, c ≠ '"') :
    readText (quoteIn .longBasic s ++ rest) = some (.ofList s, rest) := by
  have written : quoteIn .longBasic s ++ rest = '"' :: '"' :: '"' ::
      ((if s.contains '\n' then ['\n'] else []) ++ (escapeText true 0 s ++
        (List.replicate 3 '"' ++ rest))) := by
    simp [quoteIn, Quotes.delimiter, Quotes.isLong, Quotes.hasEscapes, List.replicate]
  have dropped := dropFirstNewline_start
    (u := escapeText true 0 s ++ (List.replicate 3 '"' ++ rest))
    fun single => head_escapeText single ('"' :: '"' :: rest)
  have length := length_le_escapeText 0 s
  rw [written, readText]
  dsimp only
  rw [dropped, readLongBasic_escapeText (Nat.zero_le 2)
    (by simp only [List.length_append]; omega) ends]
  rfl

theorem readText_longLiteral (inner : ∀ c ∈ s, c = '\n' ∨ isInner c = true)
    (few : longestRun '\'' 0 s ≤ 2) (ends : ∀ c ∈ rest.head?, c ≠ '\'') :
    readText (quoteIn .longLiteral s ++ rest) = some (.ofList s, rest) := by
  have written : quoteIn .longLiteral s ++ rest = '\'' :: '\'' :: '\'' ::
      ((if s.contains '\n' then ['\n'] else []) ++ (s ++ (List.replicate 3 '\'' ++ rest))) := by
    simp [quoteIn, Quotes.delimiter, Quotes.isLong, Quotes.hasEscapes, List.replicate]
  have dropped := dropFirstNewline_start (u := s ++ (List.replicate 3 '\'' ++ rest))
    fun single => head_inner inner single ('\'' :: '\'' :: rest)
  rw [written, readText]
  dsimp only
  rw [dropped, readLongLiteral_append inner few (by simp only [List.length_append]; omega) ends]
  rfl

end Any

/-- **A text is read back from the quotes it is written in**, whatever it is. -/
theorem readText_quote (s : String) {rest : List Char}
    (ends : ∀ c ∈ rest.head?, c ≠ '"' ∧ c ≠ '\'') :
    readText ((quote s).toList ++ rest) = some (s, rest) := by
  have quotes : ∀ c ∈ rest.head?, c ≠ '"' := fun c first => (ends c first).1
  have apostrophes : ∀ c ∈ rest.head?, c ≠ '\'' := fun c first => (ends c first).2
  have inner (free : s.toList.any needsEscape = false) :
      ∀ c ∈ s.toList, c = '\n' ∨ isInner c = true := by
    intro c member
    refine or_iff_not_imp_left.mpr fun line => isInner_of_not_needsEscape ?_ line
    exact Bool.eq_false_iff.mpr (List.any_eq_false.mp free c member)
  have whole : String.ofList s.toList = s := String.ofList_toList
  rw [quote, String.toList_ofList, ← whole]
  simp only [quotesFor, String.toList_ofList]
  split
  · exact readText_basic quotes
  split
  · rename_i plain
    simp only [Bool.and_eq_true, Bool.not_eq_true', decide_eq_true_eq] at plain
    obtain ⟨⟨free, line⟩, none⟩ := plain
    refine readText_literal (fun c member => (inner free c member).resolve_left ?_)
      (not_mem_of_longestRun none) apostrophes
    rintro rfl
    simp [member] at line
  split
  · exact readText_longBasic quotes
  split
  · rename_i plain
    simp only [Bool.and_eq_true, Bool.not_eq_true', decide_eq_true_eq] at plain
    exact readText_longLiteral (inner plain.1) plain.2 apostrophes
  split
  · exact readText_longBasic quotes
  · exact readText_basic quotes

/-- What a quoted text begins with. -/
theorem head_quote (s : String) :
    ∃ c rest, (quote s).toList = c :: rest ∧ (c = '"' ∨ c = '\'') := by
  rw [quote, String.toList_ofList]
  cases quotesFor s.toList with
  | basic | longBasic => exact ⟨'"', _, rfl, .inl rfl⟩
  | literal | longLiteral => exact ⟨'\'', _, rfl, .inr rfl⟩

end Counsel.Toml
