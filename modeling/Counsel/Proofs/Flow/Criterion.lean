import Counsel.Proofs.Decimal.Numeral
import Counsel.Proofs.Flow.Answer
import Counsel.Proofs.Text.Blank
import Counsel.Proofs.Text.Pattern

/-!
Which texts denote a criterion.

`Criterion.Spelled` is the grammar, for digits of some kind: `max(`, a body without `)`, a
comparison and a number, with blanks around the comparison. The pattern of a criterion matches a
trimmed text exactly if it is spelled so with the digits of any script (`matches_pattern`), and
in one way only (`Spelled.unique`), so what is captured is what is spelled. Of the numbers that the
pattern lets through, those in ASCII digits are read (`isSome_readNumeral_number`).

* `Criterion.parse?_eq_some_iff`: the criterion that a text denotes.
* `Criterion.unsupported_iff`: an expression is unsupported exactly if it is not spelled like that
  in ASCII digits with some name between its commas, whatever the answers are.
-/

namespace Counsel

namespace Text

/-- Decimal digits are not blank. -/
theorem isBlank_of_isDecimal {c : Char} (decimal : isDecimal c = true) : isBlank c = false := by
  obtain ⟨z, script, within⟩ := List.any_eq_true.mp decimal
  -- The scripts lie between the blanks, none across one.
  have apart : ∀ z ∈ zeros, 0x21 ≤ z ∧ z ≤ 0x7b ∨ 0xa1 ≤ z ∧ z ≤ 0x1676 ∨
      0x1681 ≤ z ∧ z ≤ 0x1ff6 ∨ 0x3001 ≤ z := by decide
  have := apart z script
  simp only [Bool.and_eq_true, decide_eq_true_eq] at within
  simp only [isBlank, Bool.or_eq_false_iff, Bool.and_eq_false_iff, decide_eq_false_iff_not,
    beq_eq_false_iff_ne]
  omega

end Text

namespace Comparison

theorem mem_all (c : Comparison) : c ∈ all := by cases c <;> decide

theorem ofSymbol?_symbol (c : Comparison) : ofSymbol? c.symbol = some c := by cases c <;> decide

theorem symbol_injective : Function.Injective symbol := by
  intro a b same
  have read := congrArg ofSymbol? same
  rw [ofSymbol?_symbol, ofSymbol?_symbol] at read
  exact Option.some.inj read

/-- No symbol begins with a blank. -/
theorem head_symbol (comparison : Comparison) {text : List Char} {c : Char}
    (first : c ∈ (comparison.symbol ++ text).head?) : Text.isBlank c = false := by
  cases comparison <;> · cases first; decide

end Comparison

namespace Criterion

open Decimal (IsDigits IsMantissa IsNumeral IsSign)
open Text (Pattern isBlank isDecimal trimChars)
open Text.Pattern (Matches)

/-! ### The grammar -/

/-- A number: an optional minus sign, digits of some kind and an optional fraction of them. -/
inductive IsNumber (digit : Char → Bool) : List Char → Prop where
  | whole {sign digits : List Char} (signs : sign = ['-'] ∨ sign = []) (some : digits ≠ [])
      (each : ∀ c ∈ digits, digit c = true) : IsNumber digit (sign ++ digits)
  | pointed {sign digits fraction : List Char} (signs : sign = ['-'] ∨ sign = [])
      (some : digits ≠ []) (each : ∀ c ∈ digits, digit c = true) (more : fraction ≠ [])
      (each' : ∀ c ∈ fraction, digit c = true) :
      IsNumber digit (sign ++ (digits ++ '.' :: fraction))

/-- The text is the expression of a comparison with a number, for the names in `body`. -/
inductive Spelled (digit : Char → Bool) :
    List Char → List Char → Comparison → List Char → Prop where
  | made {body gap gap' number : List Char} {comparison : Comparison} (closed : ')' ∉ body)
      (blank : ∀ c ∈ gap, isBlank c = true) (blank' : ∀ c ∈ gap', isBlank c = true)
      (numeral : IsNumber digit number) :
      Spelled digit
        ("max(".toList ++ (body ++ ')' :: (gap ++ (comparison.symbol ++ (gap' ++ number)))))
        body comparison number

/-- An expression that can be evaluated: but for blanks at its ends it is spelled as one in ASCII
digits, and something other than blanks stands between two commas of its body. -/
def Supported (s : String) : Prop :=
  ∃ body comparison number, Spelled Char.isDigit (trimChars s.toList) body comparison number ∧
    ∃ piece ∈ body.splitOn ',', ∃ c ∈ piece, isBlank c = false

variable {digit : Char → Bool} {s : String} {text body number : List Char}
variable {comparison : Comparison}

/-! ### Numbers -/

theorem IsNumber.chars (made : IsNumber digit number) :
    ∀ c ∈ number, c = '-' ∨ c = '.' ∨ digit c = true := by
  have minus {sign : List Char} (signs : sign = ['-'] ∨ sign = []) : ∀ c ∈ sign, c = '-' := by
    rcases signs with rfl | rfl <;> simp
  intro c member
  cases made with
  | whole signs some each =>
      rcases List.mem_append.mp member with sign | digit
      · exact Or.inl (minus signs c sign)
      · exact Or.inr (Or.inr (each c digit))
  | pointed signs some each more each' =>
      simp only [List.mem_append, List.mem_cons] at member
      rcases member with sign | digit | point | digit
      · exact Or.inl (minus signs c sign)
      · exact Or.inr (Or.inr (each c digit))
      · exact Or.inr (Or.inl point)
      · exact Or.inr (Or.inr (each' c digit))

/-- A number in digits of one kind that are all of another kind is a number in those. -/
theorem IsNumber.imp {digit' : Char → Bool} (made : IsNumber digit number)
    (each : ∀ c ∈ number, digit c = true → digit' c = true) : IsNumber digit' number := by
  cases made with
  | whole signs some digits =>
      exact .whole signs some fun c member =>
        each c (List.mem_append_right _ member) (digits c member)
  | pointed signs some digits more digits' =>
      refine .pointed signs some (fun c member => ?_) more fun c member => ?_
      · exact each c (by simp [member]) (digits c member)
      · exact each c (by simp [member]) (digits' c member)

/-- A number in ASCII digits is a numeral. -/
theorem IsNumber.isNumeral (made : IsNumber Char.isDigit number) :
    ∃ negative significand exponent, IsNumeral negative significand exponent number := by
  have sign {sign : List Char} (signs : sign = ['-'] ∨ sign = []) :
      ∃ negative, IsSign negative sign := by
    rcases signs with rfl | rfl
    · exact ⟨_, .minus⟩
    · exact ⟨_, .absent⟩
  cases made with
  | whole signs some each =>
      obtain ⟨negative, signs⟩ := sign signs
      have numeral := IsNumeral.made signs (.plain some each) .absent
      rw [List.append_nil] at numeral
      exact ⟨_, _, _, numeral⟩
  | pointed signs some each more each' =>
      obtain ⟨negative, signs⟩ := sign signs
      have numeral := IsNumeral.made signs
        (.pointed (List.append_ne_nil_of_left_ne_nil some _) each each') .absent
      rw [List.append_nil] at numeral
      exact ⟨_, _, _, numeral⟩

/-- Of the numbers in the digits of any script those in ASCII digits are read. -/
theorem isSome_readNumeral_number (made : IsNumber isDecimal number) :
    (Decimal.readNumeral number).isSome = true ↔ IsNumber Char.isDigit number := by
  constructor
  · intro read
    obtain ⟨x, read⟩ := Option.isSome_iff_exists.mp read
    have ascii := Decimal.ascii_of_readNumeral read
    exact made.imp fun c member decimal => Text.isDigit_of_isDecimal decimal (ascii c member)
  · intro made
    obtain ⟨_, _, _, numeral⟩ := made.isNumeral
    rw [Decimal.readNumeral_of_isNumeral numeral]
    rfl

/-! ### The pattern -/

theorem plain_fraction :
    Pattern.Plain (.sequence [.literal ['.'], .atLeastOne isDecimal]) fun s =>
      ∃ fraction, s = '.' :: fraction ∧ fraction ≠ [] ∧ ∀ c ∈ fraction, isDecimal c = true := by
  intro s gs
  rw [(Pattern.plain_literal _).matches_sequence]
  constructor
  · rintro ⟨_, _, rfl, rfl, tail₁⟩
    obtain ⟨fraction, _, rfl, each, tail₂⟩ :=
      (Pattern.plain_atLeastOne _).matches_sequence.mp tail₁
    obtain ⟨rfl, rfl⟩ := Pattern.matches_sequence_nil.mp tail₂
    exact ⟨⟨fraction, by rw [List.append_nil]; rfl, each⟩, rfl⟩
  · rintro ⟨⟨fraction, rfl, each⟩, rfl⟩
    have rest := (Pattern.plain_atLeastOne isDecimal).matches_sequence.mpr
      ⟨fraction, [], (List.append_nil _).symm, each, Pattern.matches_nothing⟩
    exact ⟨['.'], fraction, rfl, rfl, rest⟩

theorem plain_numberPattern : Pattern.Plain numberPattern (IsNumber isDecimal) := by
  intro s gs
  rw [numberPattern, (Pattern.plain_literal _).perhaps.matches_sequence]
  constructor
  · rintro ⟨sign, _, rfl, signs, tail₁⟩
    obtain ⟨digits, _, rfl, ⟨some, each⟩, tail₂⟩ :=
      (Pattern.plain_atLeastOne _).matches_sequence.mp tail₁
    obtain ⟨decimals, _, rfl, pointed, tail₃⟩ := plain_fraction.perhaps.matches_sequence.mp tail₂
    obtain ⟨rfl, rfl⟩ := Pattern.matches_sequence_nil.mp tail₃
    rw [List.append_nil]
    rcases pointed with ⟨fraction, rfl, more, each'⟩ | rfl
    · exact ⟨.pointed signs some each more each', rfl⟩
    · rw [List.append_nil]
      exact ⟨.whole signs some each, rfl⟩
  · rintro ⟨made, rfl⟩
    cases made with
    | @whole sign digits signs some each =>
        have third := plain_fraction.perhaps.matches_sequence.mpr
          ⟨[], [], rfl, Or.inr rfl, Pattern.matches_nothing⟩
        have second := (Pattern.plain_atLeastOne isDecimal).matches_sequence.mpr
          ⟨digits, [], (List.append_nil _).symm, ⟨some, each⟩, third⟩
        exact ⟨sign, digits, rfl, signs, second⟩
    | @pointed sign digits fraction signs some each more each' =>
        have third := plain_fraction.perhaps.matches_sequence.mpr
          ⟨'.' :: fraction, [], (List.append_nil _).symm, Or.inl ⟨fraction, rfl, more, each'⟩,
            Pattern.matches_nothing⟩
        have second := (Pattern.plain_atLeastOne isDecimal).matches_sequence.mpr
          ⟨digits, _, rfl, ⟨some, each⟩, third⟩
        exact ⟨sign, _, rfl, signs, second⟩

/-- The pattern matches what is spelled as an expression, with blanks at the end. -/
theorem matches_pattern {gs : List (List Char)} :
    Matches pattern text gs ↔
      ∃ front back body comparison number, text = front ++ back ∧
        Spelled isDecimal front body comparison number ∧ (∀ c ∈ back, isBlank c = true) ∧
        gs = [body, comparison.symbol, number] := by
  rw [pattern, (Pattern.plain_literal _).matches_sequence]
  constructor
  · rintro ⟨_, _, rfl, rfl, tail₁⟩
    obtain ⟨body, _, _, rfl, rfl, inside, tail₂⟩ :=
      (Pattern.plain_many _).matches_sequence_group.mp tail₁
    obtain ⟨_, _, rfl, rfl, tail₃⟩ := (Pattern.plain_literal _).matches_sequence.mp tail₂
    obtain ⟨gap, _, rfl, blank, tail₄⟩ := (Pattern.plain_many _).matches_sequence.mp tail₃
    obtain ⟨_, _, _, rfl, rfl, symbol, tail₅⟩ :=
      (Pattern.plain_oneOf _).matches_sequence_group.mp tail₄
    obtain ⟨gap', _, rfl, blank', tail₆⟩ := (Pattern.plain_many _).matches_sequence.mp tail₅
    obtain ⟨number, _, _, rfl, rfl, made, tail₇⟩ :=
      plain_numberPattern.matches_sequence_group.mp tail₆
    obtain ⟨back, _, rfl, trailing, tail₈⟩ := (Pattern.plain_many _).matches_sequence.mp tail₇
    obtain ⟨rfl, rfl⟩ := Pattern.matches_sequence_nil.mp tail₈
    obtain ⟨comparison, -, rfl⟩ := List.mem_map.mp symbol
    have closed : ')' ∉ body := fun member => by simpa using inside ')' member
    refine ⟨_, back, body, comparison, number, ?_, .made closed blank blank' made, trailing, rfl⟩
    simp only [List.append_assoc, List.cons_append, List.nil_append, List.append_nil]
  · rintro ⟨_, back, body, comparison, number, rfl, spelled, trailing, rfl⟩
    cases spelled with
    | @made body gap gap' number comparison closed blank blank' made =>
        have inside : ∀ c ∈ body, decide (c ≠ ')') = true := fun c member =>
          decide_eq_true fun is => closed (is ▸ member)
        have symbol : comparison.symbol ∈ Comparison.all.map Comparison.symbol :=
          List.mem_map_of_mem (Comparison.mem_all comparison)
        have trail := (Pattern.plain_many isBlank).matches_sequence.mpr
          ⟨back, [], (List.append_nil _).symm, trailing, Pattern.matches_nothing⟩
        have numeral := plain_numberPattern.matches_sequence_group.mpr
          ⟨number, back, [], rfl, rfl, made, trail⟩
        have spaced' := (Pattern.plain_many isBlank).matches_sequence.mpr
          ⟨gap', _, rfl, blank', numeral⟩
        have operator := (Pattern.plain_oneOf _).matches_sequence_group.mpr
          ⟨comparison.symbol, _, _, rfl, rfl, symbol, spaced'⟩
        have spaced := (Pattern.plain_many isBlank).matches_sequence.mpr
          ⟨gap, _, rfl, blank, operator⟩
        have close := (Pattern.plain_literal [')']).matches_sequence.mpr ⟨_, _, rfl, rfl, spaced⟩
        have names := (Pattern.plain_many (· ≠ ')')).matches_sequence_group.mpr
          ⟨body, _, _, rfl, rfl, inside, close⟩
        refine ⟨_, _, ?_, rfl, names⟩
        simp only [List.append_assoc, List.cons_append, List.nil_append]

/-- Of a trimmed text no blanks are left at the end. -/
theorem matches_pattern_trimChars {gs : List (List Char)} :
    Matches pattern (trimChars text) gs ↔
      ∃ body comparison number, Spelled isDecimal (trimChars text) body comparison number ∧
        gs = [body, comparison.symbol, number] := by
  rw [matches_pattern]
  constructor
  · rintro ⟨front, back, body, comparison, number, whole, spelled, trailing, rfl⟩
    have none : back = [] := by
      by_contra more
      obtain ⟨c, last⟩ : ∃ c, back.getLast? = some c := ⟨_, List.getLast?_eq_some_getLast more⟩
      have black : isBlank c = false :=
        Text.getLast?_trimChars (s := text) (by rw [whole]; simp [last])
      rw [trailing c (List.mem_of_getLast? last)] at black
      cases black
    rw [none, List.append_nil] at whole
    exact ⟨body, comparison, number, whole ▸ spelled, rfl⟩
  · rintro ⟨body, comparison, number, spelled, rfl⟩
    exact ⟨_, [], body, comparison, number, (List.append_nil _).symm, spelled, by simp, rfl⟩

/-! ### An expression is spelled in one way -/

theorem IsNumber.head (made : IsNumber isDecimal number) :
    ∀ c ∈ number.head?, isBlank c = false ∧ c ∉ ['<', '=', '>'] := by
  intro c first
  rcases made.chars c (List.mem_of_mem_head? first) with rfl | rfl | decimal
  · decide
  · decide
  · refine ⟨Text.isBlank_of_isDecimal decimal, fun operator => ?_⟩
    have none : ['<', '=', '>'].all (!isDecimal ·) = true := by decide
    simpa [decimal] using List.all_eq_true.mp none c operator

/-- What follows a comparison does not continue its symbol. -/
theorem head_operand {gap : List Char} (blank : ∀ c ∈ gap, isBlank c = true)
    (made : IsNumber isDecimal number) : ∀ c ∈ (gap ++ number).head?, c ∉ ['<', '=', '>'] := by
  intro c first
  cases gap with
  | nil => exact (made.head c first).2
  | cons b gap =>
      cases first
      have none : ['<', '=', '>'].all (!isBlank ·) = true := by decide
      intro operator
      simpa [blank _ List.mem_cons_self] using List.all_eq_true.mp none _ operator

theorem Spelled.unique {body' number' : List Char} {comparison' : Comparison}
    (left : Spelled isDecimal text body comparison number)
    (right : Spelled isDecimal text body' comparison' number') :
    body = body' ∧ comparison = comparison' ∧ number = number' := by
  cases left with
  | @made _ gap₁ gap₂ _ _ closed blank₁ blank₂ made =>
      generalize whole : "max(".toList ++ (body ++ _) = text at right
      cases right with
      | @made _ gap₃ gap₄ _ _ closed' blank₃ blank₄ made' =>
          have free {s : List Char} (closed : ')' ∉ s) : ∀ c ∈ s, decide (c ≠ ')') = true :=
            fun c member => decide_eq_true fun is => closed (is ▸ member)
          have operator (c : Comparison) : ∀ a ∈ c.symbol, decide (a ∈ ['<', '=', '>']) = true :=
            List.all_eq_true.mp (by cases c <;> decide)
          obtain ⟨rfl, behind⟩ := Text.cut_unique (List.append_cancel_left whole)
            (free closed) (free closed') (by simp) (by simp)
          obtain ⟨-, behind⟩ := Text.cut_unique (List.cons.inj behind).2 blank₁ blank₃
            (fun _ => comparison.head_symbol) fun _ => comparison'.head_symbol
          obtain ⟨same, behind⟩ := Text.cut_unique behind (operator _) (operator _)
            (fun c first => decide_eq_false (head_operand blank₂ made c first))
            fun c first => decide_eq_false (head_operand blank₄ made' c first)
          obtain ⟨-, behind⟩ := Text.cut_unique behind blank₂ blank₄
            (fun c first => (made.head c first).1) fun c first => (made'.head c first).1
          exact ⟨rfl, Comparison.symbol_injective same, behind⟩

/-! ### The criterion of an expression -/

theorem Spelled.imp {digit' : Char → Bool} (spelled : Spelled digit text body comparison number)
    (numeral : IsNumber digit' number) : Spelled digit' text body comparison number := by
  cases spelled with
  | made closed blank blank' made => exact .made closed blank blank' numeral

theorem Spelled.isNumber (spelled : Spelled digit text body comparison number) :
    IsNumber digit number := by
  cases spelled with
  | made closed blank blank' made => exact made

/-- What is spelled in ASCII digits is spelled in the digits of some script. -/
theorem Spelled.isDecimal (spelled : Spelled Char.isDigit text body comparison number) :
    Spelled isDecimal text body comparison number :=
  spelled.imp (spelled.isNumber.imp fun _ _ digit => Text.isDecimal_of_isDigit digit)

/-- What is captured of an expression is what it is spelled with. -/
theorem captures?_pattern (spelled : Spelled isDecimal (trimChars text) body comparison number) :
    pattern.captures? (trimChars text) = some [body, comparison.symbol, number] := by
  obtain ⟨gs, captured⟩ := Pattern.exists_captures?
    (matches_pattern_trimChars.mpr ⟨body, comparison, number, spelled, rfl⟩)
  obtain ⟨body', comparison', number', spelled', rfl⟩ :=
    matches_pattern_trimChars.mp (Pattern.matches_of_captures? captured)
  obtain ⟨rfl, rfl, rfl⟩ := spelled.unique spelled'
  exact captured

/-- A text denotes a criterion exactly if it is spelled as an expression in ASCII digits and there
is a name in it. -/
theorem parse?_eq_some_iff {c : Criterion} :
    parse? s = some c ↔
      ∃ body number, Spelled Char.isDigit (trimChars s.toList) body c.comparison number ∧
        c.keys = readKeys body ∧ c.keys ≠ [] ∧ Decimal.readNumeral number = some c.threshold := by
  constructor
  · intro read
    obtain ⟨gs, captured, made⟩ := Option.bind_eq_some_iff.mp read
    obtain ⟨body, comparison, number, spelled, rfl⟩ :=
      matches_pattern_trimChars.mp (Pattern.matches_of_captures? captured)
    simp only [ofGroups?, Comparison.ofSymbol?_symbol] at made
    split at made
    · cases made
    · rename_i named
      obtain ⟨threshold, value, made⟩ := Option.bind_eq_some_iff.mp made
      cases made
      have digits := (isSome_readNumeral_number spelled.isNumber).mp (by rw [value]; rfl)
      exact ⟨body, number, spelled.imp digits, rfl, named, value⟩
  · rintro ⟨body, number, spelled, keys, named, value⟩
    rw [parse?, captures?_pattern spelled.isDecimal]
    simp only [Option.bind_some, ofGroups?, ← keys, if_neg named, value,
      Comparison.ofSymbol?_symbol]
    rfl

/-- The names in a body are what stands between its commas, trimmed, without what is blank. -/
theorem readKeys_eq (body : List Char) :
    readKeys body =
      ((body.splitOn ',').map fun piece => Text.trim (.ofList piece)).filter (· ≠ "") := by
  simp only [readKeys, Text.splitAtMark_eq_splitOn, Text.trim, String.toList_ofList]

/-- There is a name in a body exactly if there is something other than blanks between two
commas. -/
theorem readKeys_ne_nil_iff :
    readKeys body ≠ [] ↔ ∃ piece ∈ body.splitOn ',', ∃ c ∈ piece, isBlank c = false := by
  have black (piece : List Char) :
      Text.trim (.ofList piece) ≠ "" ↔ ∃ c ∈ piece, isBlank c = false := by
    rw [ne_eq, Text.trim_eq_empty, Text.Blank, String.toList_ofList]
    push Not
    simp only [Bool.not_eq_true]
  rw [readKeys_eq, ne_eq, List.filter_eq_nil_iff]
  push Not
  simp only [List.mem_map, decide_eq_true_eq, exists_exists_and_eq_and, black]

theorem isSome_parse?_iff : (parse? s).isSome = true ↔ Supported s := by
  rw [Option.isSome_iff_exists]
  constructor
  · rintro ⟨c, read⟩
    obtain ⟨body, number, spelled, keys, named, -⟩ := parse?_eq_some_iff.mp read
    exact ⟨body, c.comparison, number, spelled, readKeys_ne_nil_iff.mp (keys ▸ named)⟩
  · rintro ⟨body, comparison, number, spelled, named⟩
    have read := (isSome_readNumeral_number spelled.isDecimal.isNumber).mpr spelled.isNumber
    obtain ⟨threshold, value⟩ := Option.isSome_iff_exists.mp read
    exact ⟨⟨readKeys body, comparison, threshold⟩, parse?_eq_some_iff.mpr
      ⟨body, number, spelled, rfl, readKeys_ne_nil_iff.mpr named, value⟩⟩

/-- **What is no expression is refused.** An expression is refused as unsupported exactly if it is
not spelled as one, whatever the answers are; the error repeats the expression. -/
theorem unsupported_iff (s : String) (answers : Answers) (t : String) :
    evalText s answers = .error (.unsupportedExpression t) ↔ t = s ∧ ¬ Supported s := by
  rw [← isSome_parse?_iff, evalText]
  cases read : parse? s with
  | none => simp [eq_comm]
  | some c =>
      constructor
      · intro refused
        obtain ⟨key, value, -, -, error⟩ := eval_error_iff.mp refused
        cases error
      · rintro ⟨-, unsupported⟩
        exact (unsupported rfl).elim

end Criterion
end Counsel
