import Counsel.Proofs.Flow.Criterion
import Mathlib.Order.Bounds.Basic

/-!
What the evaluation of a criterion means.

The answers to the names of a criterion are compared by their exact values: `Criterion.Counts` says
which integer an answer counts as, and `Criterion.greatest_denotes` finds the greatest of them.
`Json.Value.NoNumber` says which answers denote nothing that can be compared; an answer that names
the number `nan` is not among them, and is passed over (`Criterion.greatest_nan`).

* `Criterion.greatest_decides`: where all answers count as integers of at most `2 ^ 53`, the
  greatest of them is compared with the threshold. An expression fails exactly at the first of its
  names whose answer denotes no number, and answers that are all `nan` count as less than every
  threshold.
-/

namespace Counsel

open Decimal (Binary64)
open Text (trimChars)

/-! ### Comparisons -/

/-- The relation of a comparison. -/
def Comparison.Relates {α : Type} [LinearOrder α] : Comparison → α → α → Prop
  | .atMost, m, t => m ≤ t
  | .below, m, t => m < t
  | .atLeast, m, t => t ≤ m
  | .above, m, t => t < m
  | .equal, m, t => m = t

instance {α : Type} [LinearOrder α] (c : Comparison) (m t : α) : Decidable (c.Relates m t) := by
  cases c <;> unfold Comparison.Relates <;> infer_instance

/-- Finite numbers are compared by their values. -/
theorem Comparison.holds_iff (c : Comparison) {x y : Binary64} {p q : ℚ} (left : x.Denotes p)
    (right : y.Denotes q) : c.holds x y = true ↔ c.Relates p q := by
  cases c with
  | atMost => exact Binary64.le_iff left right
  | below => exact Binary64.lt_iff left right
  | atLeast => exact Binary64.le_iff right left
  | above => exact Binary64.lt_iff right left
  | equal => exact Binary64.eq_iff left right

theorem Comparison.relates_cast (c : Comparison) {m t : ℤ} :
    c.Relates (m : ℚ) (t : ℚ) ↔ c.Relates m t := by
  cases c <;> simp [Comparison.Relates]

/-! ### Answers -/

/-- Whether a value denotes no number, not even one that is not finite: it is neither null nor a
number nor the text of one. -/
def Json.Value.NoNumber : Json.Value → Prop
  | .null => False
  | .number _ => False
  | .text s => ¬ (∃ q, Decimal.Denotes (trimChars s.toList) q) ∧
      ¬ ∃ x, Decimal.Names x (trimChars s.toList)
  | _ => True

theorem Json.Value.isNumeric_eq_false_iff {v : Json.Value} : v.isNumeric = false ↔ v.NoNumber := by
  cases v with
  | null => simp [isNumeric, NoNumber]
  | bool b => simp [isNumeric, NoNumber]
  | number n => simp [isNumeric, NoNumber]
  | text s =>
      rw [isNumeric, NoNumber, ← not_or, ← Decimal.isSome_readNumeral_iff, Bool.not_eq_true]
  | array items => simp [isNumeric, NoNumber]
  | object members => simp [isNumeric, NoNumber]

namespace Criterion

/-- The answer under a name counts as an integer of at most `2 ^ 53`: it is missing or null, or a
number or a text with that value, with blanks around it. -/
inductive Counts (answers : Answers) (key : String) : ℤ → Prop where
  | missing (none : answers.get? key = none) : Counts answers key 0
  | null (found : answers.get? key = some .null) : Counts answers key 0
  | integer {v : ℤ} (found : answers.get? key = some (.number (.integer v)))
      (small : |v| ≤ 2 ^ 53) : Counts answers key v
  | binary {x : Binary64} {v : ℤ} (found : answers.get? key = some (.number (.binary x)))
      (value : x.Denotes v) (small : |v| ≤ 2 ^ 53) : Counts answers key v
  | text {s : String} {v : ℤ} (found : answers.get? key = some (.text s))
      (value : Decimal.Denotes (trimChars s.toList) v) (small : |v| ≤ 2 ^ 53) :
      Counts answers key v

variable {answers : Answers} {key : String} {keys : List String} {v w : ℤ} {start : Binary64}

/-- An answer is read as the integer it counts as. -/
theorem answerNumber_denotes (counts : Counts answers key v) :
    ∃ x, answerNumber answers key = .ok x ∧ x.Denotes v := by
  have zero : (Binary64.zero false).Denotes (0 : ℤ) := by
    simpa using Binary64.zero_denotes false
  rw [answerNumber]
  cases counts with
  | missing none => exact ⟨_, by rw [none], zero⟩
  | null found => exact ⟨_, by rw [found], zero⟩
  | integer found small => exact ⟨_, by rw [found]; rfl, Binary64.ofInt_denotes small⟩
  | binary found value small => exact ⟨_, by rw [found]; rfl, value⟩
  | text found value small =>
      obtain ⟨x, read, denotes⟩ := Decimal.readNumeral_denotes value small
      exact ⟨x, by simp only [found, read], denotes⟩

theorem Counts.unique (left : Counts answers key v) (right : Counts answers key w) : v = w := by
  obtain ⟨x, read, value⟩ := answerNumber_denotes left
  obtain ⟨y, read', value'⟩ := answerNumber_denotes right
  obtain rfl : x = y := Except.ok.inj (read.symm.trans read')
  exact_mod_cast value.unique value'

/-! ### The greatest -/

/-- The integers that the answers under some names count as. -/
def counted (answers : Answers) (keys : List String) : Set ℤ :=
  {v | ∃ key ∈ keys, Counts answers key v}

theorem counted_cons (counts : Counts answers key v) :
    counted answers (key :: keys) = insert v (counted answers keys) := by
  ext w
  simp only [counted, Set.mem_ofPred_eq, List.exists_mem_cons_iff, Set.mem_insert_iff]
  constructor
  · rintro (counts' | other)
    · exact Or.inl (counts'.unique counts)
    · exact Or.inr other
  · rintro (rfl | other)
    · exact Or.inl counts
    · exact Or.inr other

theorem isGreatest_insert_max {u v m : ℤ} {S : Set ℤ} (top : IsGreatest (insert (max u v) S) m) :
    IsGreatest (insert u (insert v S)) m := by
  obtain ⟨member, bound⟩ := top
  have greater : max u v ≤ m := bound (Set.mem_insert _ _)
  constructor
  · rcases member with rfl | member
    · rcases max_choice u v with first | second
      · exact Or.inl first
      · exact Or.inr (Or.inl second)
    · exact Or.inr (Or.inr member)
  · rintro w (rfl | rfl | member)
    · exact (le_max_left _ _).trans greater
    · exact (le_max_right _ _).trans greater
    · exact bound (Set.mem_insert_of_mem _ member)

/-- From a start with an integer value on, the greatest of the start and the answers is found. -/
theorem greatest_from {u : ℤ} (value : start.Denotes u)
    (each : ∀ key ∈ keys, ∃ v, Counts answers key v) :
    ∃ x m, greatest answers start keys = .ok x ∧ x.Denotes (m : ℤ) ∧
      IsGreatest (insert u (counted answers keys)) m := by
  induction keys generalizing start u with
  | nil => exact ⟨start, u, rfl, value, by simp [counted]⟩
  | cons key keys ih =>
      obtain ⟨⟨v, counts⟩, each⟩ := List.forall_mem_cons.mp each
      obtain ⟨y, read, denotes⟩ := answerNumber_denotes counts
      have greater : (start.max y).Denotes ((max u v : ℤ) : ℚ) := by
        rw [Int.cast_max]
        exact Binary64.max_denotes value denotes
      obtain ⟨x, m, found, value, top⟩ := ih greater each
      refine ⟨x, m, ?_, value, ?_⟩
      · rw [greatest, read]
        exact found
      · rw [counted_cons counts]
        exact isGreatest_insert_max top

/-- Of some answers that count as integers the greatest is found. -/
theorem greatest_denotes (some : keys ≠ []) (each : ∀ key ∈ keys, ∃ v, Counts answers key v) :
    ∃ x m, greatest answers (.infinite true) keys = .ok x ∧ x.Denotes (m : ℤ) ∧
      IsGreatest (counted answers keys) m := by
  obtain ⟨key, keys, rfl⟩ := List.exists_cons_of_ne_nil some
  obtain ⟨⟨v, counts⟩, each⟩ := List.forall_mem_cons.mp each
  obtain ⟨y, read, denotes⟩ := answerNumber_denotes counts
  obtain ⟨x, m, found, value, top⟩ := greatest_from denotes each
  refine ⟨x, m, ?_, value, ?_⟩
  · rw [greatest, read]
    show greatest answers ((Binary64.infinite true).max y) keys = .ok x
    rw [Binary64.max_infinite denotes, found]
  · rw [counted_cons counts]
    exact top

/-! ### Answers that name no number -/

/-- The answer under a name is the text `nan`, in any case and with any sign. -/
def NamesNan (answers : Answers) (key : String) : Prop :=
  ∃ s, answers.get? key = some (.text s) ∧ Decimal.Names .nan (trimChars s.toList)

/-- Such an answer is passed over: it is neither refused nor compared. -/
theorem greatest_nan (named : NamesNan answers key) :
    greatest answers start (key :: keys) = greatest answers start keys := by
  obtain ⟨s, found, nan⟩ := named
  have read : answerNumber answers key = .ok .nan := by
    simp only [answerNumber, found, Decimal.readNumeral_of_names nan]
  have same : start.max .nan = start := by cases start <;> rfl
  rw [greatest, read]
  show greatest answers (start.max .nan) keys = _
  rw [same]

/-- Where all answers are passed over, the start is left. -/
theorem greatest_all_nan (named : ∀ key ∈ keys, NamesNan answers key) :
    greatest answers start keys = .ok start := by
  induction keys with
  | nil => rfl
  | cons key keys ih =>
      obtain ⟨first, others⟩ := List.forall_mem_cons.mp named
      rw [greatest_nan first, ih others]

/-- Where nothing was compared, the start decides, which lies below every number. -/
theorem holds_infinite (c : Comparison) {y : Binary64} {q : ℚ} (value : y.Denotes q) :
    c.holds (.infinite true) y = decide (c = .atMost ∨ c = .below) := by
  obtain ⟨_, _, _, rfl⟩ := value.isFinite
  cases c <;> rfl

/-! ### Evaluation -/

/-- The answers that are refused are those that denote no number. -/
theorem refused_iff_noNumber :
    Answers.refused answers key = true ↔
      ∃ value, answers.get? key = some value ∧ value.NoNumber := by
  simp only [Answers.refused_iff, Json.Value.isNumeric_eq_false_iff]

/-- A criterion fails at the first of its names whose answer denotes no number. -/
theorem eval_error_iff_noNumber {c : Criterion} {e : FlowError} :
    c.eval answers = .error e ↔
      ∃ before key after value, c.keys = before ++ key :: after ∧
        (∀ k ∈ before, ∀ v, answers.get? k = some v → ¬ v.NoNumber) ∧
        answers.get? key = some value ∧ value.NoNumber ∧ e = .notANumber key value.toText := by
  rw [eval_error_iff]
  constructor
  · rintro ⟨key, value, first, found, rfl⟩
    obtain ⟨refused, before, after, whole, others⟩ := List.find?_eq_some_iff_append.mp first
    obtain ⟨value', found', bad⟩ := refused_iff_noNumber.mp refused
    obtain rfl : value = value' := Option.some.inj (found.symm.trans found')
    refine ⟨before, key, after, value, whole, fun k member v there worse => ?_, found, bad, rfl⟩
    have taken : Answers.refused answers k = false := by simpa using others k member
    rw [refused_iff_noNumber.mpr ⟨v, there, worse⟩] at taken
    cases taken
  · rintro ⟨before, key, after, value, whole, others, found, bad, rfl⟩
    have taken (k : String) (member : k ∈ before) : Answers.refused answers k = false := by
      rw [← Bool.not_eq_true, refused_iff_noNumber]
      rintro ⟨v, there, worse⟩
      exact others k member v there worse
    refine ⟨key, value, List.find?_eq_some_iff_append.mpr
      ⟨refused_iff_noNumber.mpr ⟨value, found, bad⟩, before, after, whole, ?_⟩, found, rfl⟩
    intro k member
    rw [taken k member]
    rfl

/-- What is spelled as an expression with a name in it, and with an integer of at most `2 ^ 53`, is
a criterion for those names and that integer. -/
theorem parse?_of_spelled {s : String} {body number : List Char} {comparison : Comparison} {t : ℤ}
    (spelled : Spelled Char.isDigit (trimChars s.toList) body comparison number)
    (named : readKeys body ≠ []) (threshold : Decimal.Denotes number t) (small : |t| ≤ 2 ^ 53) :
    ∃ x, parse? s = some ⟨readKeys body, comparison, x⟩ ∧ x.Denotes t := by
  obtain ⟨x, read, value⟩ := Decimal.readNumeral_denotes threshold small
  exact ⟨x, parse?_eq_some_iff.mpr ⟨body, number, spelled, rfl, named, read⟩, value⟩

/-- **The greatest answer decides.** An expression compares the greatest of the answers with its
number, if they all count as integers. It fails exactly at the first of its names whose answer
denotes no number; where all answers name `nan`, it passes if the greatest may be below the
number. -/
theorem greatest_decides {s : String} {body number : List Char} {comparison : Comparison} {t : ℤ}
    (spelled : Spelled Char.isDigit (trimChars s.toList) body comparison number)
    (named : readKeys body ≠ []) (threshold : Decimal.Denotes number t) (small : |t| ≤ 2 ^ 53)
    (answers : Answers) :
    ((∀ key ∈ readKeys body, ∃ v, Counts answers key v) →
      ∃ m, IsGreatest {v | ∃ key ∈ readKeys body, Counts answers key v} m ∧
        evalText s answers = .ok (decide (comparison.Relates m t))) ∧
    (∀ e, evalText s answers = .error e ↔
      ∃ before key after value, readKeys body = before ++ key :: after ∧
        (∀ k ∈ before, ∀ v, answers.get? k = some v → ¬ v.NoNumber) ∧
        answers.get? key = some value ∧ value.NoNumber ∧ e = .notANumber key value.toText) ∧
    ((∀ key ∈ readKeys body, NamesNan answers key) →
      evalText s answers = .ok (decide (comparison = .atMost ∨ comparison = .below))) := by
  obtain ⟨y, read, bound⟩ := parse?_of_spelled spelled named threshold small
  have opened : evalText s answers = (⟨readKeys body, comparison, y⟩ : Criterion).eval answers := by
    rw [evalText, read]
  rw [opened]
  refine ⟨?_, fun e => eval_error_iff_noNumber, ?_⟩
  · intro each
    obtain ⟨x, m, found, value, top⟩ := greatest_denotes named each
    refine ⟨m, top, ?_⟩
    have decided : comparison.holds x y = decide (comparison.Relates m t) := by
      rw [Bool.eq_iff_iff, comparison.holds_iff value bound, comparison.relates_cast,
        decide_eq_true_iff]
    rw [eval, found]
    exact congrArg Except.ok decided
  · intro passed
    rw [eval, greatest_all_nan passed]
    exact congrArg Except.ok (holds_infinite comparison bound)

/-- Names with blanks around them, one of them twice, and a number and a text for answers. -/
theorem greatest_decides_padded :
    let s := "max( year ,month,year ) <= 2"
    let body := " year ,month,year ".toList
    let answers : Answers := .ofList [("year", .number (.integer 2)), ("month", .text " 10e-1 ")]
    (Spelled Char.isDigit (trimChars s.toList) body .atMost ['2'] ∧ readKeys body ≠ [] ∧
      Decimal.Denotes ['2'] (2 : ℤ) ∧ |(2 : ℤ)| ≤ 2 ^ 53) ∧
    (∀ key ∈ readKeys body, ∃ v, Counts answers key v) ∧
    ∃ m, IsGreatest {v | ∃ key ∈ readKeys body, Counts answers key v} m ∧
      evalText s answers = .ok (decide (Comparison.atMost.Relates m 2)) := by
  intro s body answers
  have two : IsNumber Char.isDigit ['2'] :=
    .whole (Or.inr rfl) (by decide) (List.all_eq_true.mp (by decide))
  have spelled : Spelled Char.isDigit (trimChars s.toList) body .atMost ['2'] := by
    have parts : trimChars s.toList = "max(".toList ++ (body ++ ')' :: ([' '] ++
        (Comparison.atMost.symbol ++ ([' '] ++ ['2'])))) := by decide
    have blank : ∀ c ∈ [' '], Text.isBlank c = true := List.all_eq_true.mp (by decide)
    rw [parts]
    exact .made (by decide) blank blank two
  have named : readKeys body ≠ [] := by decide
  have threshold : Decimal.Denotes ['2'] (2 : ℤ) := Decimal.denotes_toDigits .absent 2
  have small : |(2 : ℤ)| ≤ 2 ^ 53 := by decide
  have each : ∀ key ∈ readKeys body, ∃ v, Counts answers key v := by
    have numeral : Decimal.IsNumeral false 10 (-1) "10e-1".toList :=
      .made .absent (@Decimal.IsMantissa.plain ['1', '0'] (by decide) (by decide))
        (@Decimal.IsExponent.marked _ _ _ ['1'] (Or.inl rfl) .minus (by decide) (by decide))
    have month : Decimal.Denotes "10e-1".toList (1 : ℤ) :=
      ⟨_, _, _, numeral, by norm_num [Binary64.signed]⟩
    have keys : readKeys body = ["year", "month", "year"] := by decide
    rw [keys]
    intro key member
    simp only [List.mem_cons, List.not_mem_nil, or_false] at member
    rcases member with rfl | rfl | rfl
    · exact ⟨2, .integer rfl small⟩
    · exact ⟨1, .text rfl month (by decide)⟩
    · exact ⟨2, .integer rfl small⟩
  exact ⟨⟨spelled, named, threshold, small⟩, each,
    (greatest_decides spelled named threshold small answers).1 each⟩

/-- The name of no number denotes none, and still the expression passes. -/
theorem nan_passes :
    let answers : Answers := .ofList [("year", .text "nan")]
    Spelled Char.isDigit (trimChars "max(year) <= 2".toList) "year".toList .atMost ['2'] ∧
    readKeys "year".toList = ["year"] ∧ answers.get? "year" = some (.text "nan") ∧
    ¬ (∃ q, Decimal.Denotes (trimChars "nan".toList) q) ∧
    evalText "max(year) <= 2" answers = .ok true := by
  intro answers
  have two : IsNumber Char.isDigit ['2'] :=
    .whole (Or.inr rfl) (by decide) (List.all_eq_true.mp (by decide))
  have spelled : Spelled Char.isDigit (trimChars "max(year) <= 2".toList) "year".toList .atMost
      ['2'] :=
    @Spelled.made _ "year".toList [' '] [' '] ['2'] .atMost (by decide)
      (List.all_eq_true.mp (by decide)) (List.all_eq_true.mp (by decide)) two
  have nan : Decimal.Names .nan (trimChars "nan".toList) :=
    .nan .absent (by decide)
  exact ⟨spelled, by decide, rfl, nan.not_denotes, by decide⟩

end Criterion
end Counsel
