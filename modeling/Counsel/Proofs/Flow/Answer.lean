import Counsel.Flow.Walk
import Mathlib.Data.List.Basic

/-!
Answers: which values answer a question, and which are numbers for a criterion.

* `not_blank_answerText`: what is neither null nor a blank text (`Value.IsAnswer`) has a text that
  is not blank, so every kind of node takes it for an answer. It rests on `not_blank_toText`: no
  value is written as a blank text.
* `Criterion.eval_error_iff`: a criterion refuses the first of its keys whose answer is no number
  (`Answers.Refused`), and decides where there is none.
-/

namespace Counsel

/-! ### The text of a value is not blank -/

section Text

open Counsel.Text (Blank isBlank)

theorem not_blank_of_mem {s : String} {c : Char} (member : c ∈ s.toList)
    (black : isBlank c = false) : ¬ Blank s := by
  intro blank
  rw [blank c member] at black
  cases black

theorem not_blank_ofList {cs : List Char} {c : Char} (member : c ∈ cs) (black : isBlank c = false) :
    ¬ Blank (String.ofList cs) :=
  not_blank_of_mem (by rwa [String.toList_ofList]) black

theorem isBlank_of_isDigit {c : Char} (digit : c.isDigit = true) : isBlank c = false := by
  simp only [Char.isDigit, Bool.and_eq_true, decide_eq_true_eq, UInt32.le_iff_toNat_le] at digit
  have low : 48 ≤ c.toNat := digit.1
  have high : c.toNat ≤ 57 := digit.2
  simp only [isBlank, Bool.or_eq_false_iff, Bool.and_eq_false_iff, decide_eq_false_iff_not,
    beq_eq_false_iff_ne]
  omega

theorem not_blank_repr (n : Nat) : ¬ Blank n.repr := by
  obtain ⟨c, member⟩ := List.exists_mem_of_ne_nil _ (Nat.toDigits_ne_nil (n := n) (b := 10))
  refine not_blank_of_mem (c := c) ?_ ?_
  · rwa [Nat.toList_repr]
  · exact isBlank_of_isDigit (Nat.isDigit_of_mem_toDigits (by decide) (by decide) member)

/-- A positive number has a point or an exponent in its text. -/
theorem Decimal.Digits.not_blank_text (layout : Decimal.Layout) (d : Decimal.Digits) :
    ¬ Blank (d.text layout) := by
  dsimp only [text]
  split
  · split
    · exact not_blank_ofList (c := '.') (by simp) rfl
    · split
      · exact not_blank_ofList (c := '.') (by simp) rfl
      · exact not_blank_ofList (c := '.') (by simp) rfl
  · exact not_blank_ofList (c := 'e') (by simp) rfl

theorem Decimal.Binary64.not_blank_text (layout : Decimal.Layout) (x : Decimal.Binary64) :
    ¬ Blank (x.text layout) := by
  cases x with
  | nan => exact not_blank_of_mem (c := 'n') (by simp [text]) rfl
  | infinite negative => exact not_blank_of_mem (c := 'n') (by simp [text]) rfl
  | finite negative significand exponent =>
      simp only [text]
      split
      · exact not_blank_of_mem (c := '0') (by simp) rfl
      · intro blank
        refine (Decimal.shortest significand exponent).not_blank_text layout ?_
        intro c member
        exact blank c (by simp [member])

theorem Json.Number.not_blank_text (n : Json.Number) : ¬ Blank n.text := by
  cases n with
  | binary x => exact x.not_blank_text Json.numberLayout
  | integer n =>
      cases n with
      | ofNat n => exact not_blank_repr n
      | negSucc n =>
          have minus : '-' ∈ ("-" ++ (n + 1).repr).toList := by simp
          exact not_blank_of_mem minus rfl

/-- No value is written as a blank text. -/
theorem Json.Value.not_blank_toText (v : Json.Value) : ¬ Blank v.toText := by
  unfold toText
  cases v with
  | null => exact not_blank_ofList (c := 'n') (by simp [chars]) rfl
  | bool b => cases b <;> exact not_blank_ofList (c := 'e') (by simp [chars]) rfl
  | number n =>
      intro blank
      refine n.not_blank_text ?_
      rwa [chars, String.ofList_toList] at blank
  | text s => exact not_blank_ofList (c := '"') (by simp [chars, quote, quoteChars]) rfl
  | array items => cases items <;> exact not_blank_ofList (c := '[') (by simp [chars]) rfl
  | object members => cases members <;> exact not_blank_ofList (c := '\x7b') (by simp [chars]) rfl

end Text

/-! ### Answers to a question -/

/-- Whether a value answers a question: it is neither null nor a blank text. -/
def Json.Value.IsAnswer : Json.Value → Prop
  | .null => False
  | .text s => ¬ Text.Blank s
  | _ => True

instance (v : Json.Value) : Decidable v.IsAnswer := by
  cases v <;> unfold Json.Value.IsAnswer <;> infer_instance

variable {answers : Answers} {key : String} {value : Json.Value}

/-- An answer has a text that is not blank. -/
theorem not_blank_answerText (found : answers.get? key = some value) (answer : value.IsAnswer) :
    ¬ Text.Blank (answerText answers key) := by
  rw [answerText, found]
  cases value with
  | null => exact answer.elim
  | text s => exact answer
  | bool b => exact Json.Value.not_blank_toText _
  | number n => exact Json.Value.not_blank_toText _
  | array items => exact Json.Value.not_blank_toText _
  | object members => exact Json.Value.not_blank_toText _

/-! ### Numbers for a criterion -/

/-- Whether a value is a number for a criterion: a number, a text that denotes one, or null, which
counts as nothing said. -/
def Json.Value.isNumeric : Json.Value → Bool
  | .null => true
  | .number _ => true
  | .text s => (Decimal.readNumeral (Text.trimChars s.toList)).isSome
  | _ => false

/-- Whether a criterion refuses the answer under a key. -/
def Answers.refused (answers : Answers) (key : String) : Bool :=
  (answers.get? key).any fun value => !value.isNumeric

theorem Answers.refused_iff :
    Answers.refused answers key = true ↔
      ∃ value, answers.get? key = some value ∧ value.isNumeric = false := by
  simp [Answers.refused, Option.any_eq_true]

namespace Criterion

open Decimal (Binary64)

theorem answerNumber_of_refused (found : answers.get? key = some value)
    (refused : value.isNumeric = false) :
    answerNumber answers key = .error (.notANumber key value.toText) := by
  rw [answerNumber, found]
  cases value with
  | null => cases refused
  | number n => cases refused
  | text s =>
      have unread : Decimal.readNumeral (Text.trimChars s.toList) = none := by
        simpa [Json.Value.isNumeric] using refused
      simp only [unread]
  | bool b => rfl
  | array items => rfl
  | object members => rfl

theorem answerNumber_of_taken (taken : Answers.refused answers key = false) :
    ∃ x, answerNumber answers key = .ok x := by
  rw [answerNumber]
  cases found : answers.get? key with
  | none => exact ⟨_, rfl⟩
  | some value =>
      have numeric : value.isNumeric = true := by simpa [Answers.refused, found] using taken
      cases value with
      | null => exact ⟨_, rfl⟩
      | number n => exact ⟨_, rfl⟩
      | text s =>
          obtain ⟨x, read⟩ := Option.isSome_iff_exists.mp numeric
          exact ⟨x, by simp only [read]⟩
      | bool b => cases numeric
      | array items => cases numeric
      | object members => cases numeric

/-- The greatest of the answers is refused at the first key whose answer is. -/
theorem greatest_error_iff (start : Binary64) {keys : List String} {e : FlowError} :
    greatest answers start keys = .error e ↔
      ∃ key value, keys.find? (Answers.refused answers) = some key ∧
        answers.get? key = some value ∧ e = .notANumber key value.toText := by
  induction keys generalizing start with
  | nil => simp [greatest]
  | cons key rest ih =>
      cases refused : Answers.refused answers key with
      | true =>
          obtain ⟨value, found, bad⟩ := Answers.refused_iff.mp refused
          rw [List.find?_cons_of_pos refused, greatest, answerNumber_of_refused found bad]
          constructor
          · rintro ⟨⟩
            exact ⟨key, value, rfl, found, rfl⟩
          · rintro ⟨_, other, ⟨⟩, there, rfl⟩
            cases found.symm.trans there
            rfl
      | false =>
          obtain ⟨x, taken⟩ := answerNumber_of_taken refused
          rw [List.find?_cons_of_neg (by simp [refused]), ← ih (start.max x), greatest,
            taken]
          rfl

/-- A criterion refuses the first of its keys whose answer is no number, and nothing else. -/
theorem eval_error_iff {c : Criterion} {e : FlowError} :
    c.eval answers = .error e ↔
      ∃ key value, c.keys.find? (Answers.refused answers) = some key ∧
        answers.get? key = some value ∧ e = .notANumber key value.toText := by
  rw [← greatest_error_iff (.infinite true), eval]
  cases greatest answers (.infinite true) c.keys with
  | error _ => simp [bind, Except.bind]
  | ok x => simp [bind, Except.bind, pure, Except.pure]

end Criterion
end Counsel
