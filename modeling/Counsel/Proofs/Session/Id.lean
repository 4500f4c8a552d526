import Counsel.Proofs.Json.Reading
import Counsel.Session.Id
import Mathlib.Algebra.Ring.Nat

/-!
Identifiers read back. The text of an identifier is its 32 digits in groups; taking the hyphens out
gives the digits (`unhyphenate?_hyphenate`), the digits give the number (`hexNumber?_hexDigits`),
and no form in braces or after a name starts with a digit. So the text names the identifier
(`parse?_text`).
-/

namespace Counsel.SessionId

open Json (hexDigit hexValue?_hexDigit)

/-! ### Digits -/

@[simp] theorem length_hexDigits (count n : Nat) : (hexDigits count n).length = count := by
  induction count generalizing n with
  | zero => rfl
  | succ count ih => rw [hexDigits, List.length_append, ih, List.length_singleton]

theorem hexNumber?_append (start : Nat) (s t : List Char) :
    hexNumber? start (s ++ t) = (hexNumber? start s).bind (hexNumber? · t) := by
  induction s generalizing start with
  | nil => rfl
  | cons c s ih =>
      rw [List.cons_append, hexNumber?, hexNumber?]
      cases Json.hexValue? c with
      | none => rfl
      | some n => exact ih (start * 16 + n)

/-- The last digits of a number denote what is left of it without the others. -/
theorem hexNumber?_hexDigits (count n start : Nat) :
    hexNumber? start (hexDigits count n) = some (start * 16 ^ count + n % 16 ^ count) := by
  induction count generalizing n with
  | zero => simp [hexDigits, hexNumber?, Nat.mod_one]
  | succ count ih =>
      have split : n % 16 ^ (count + 1) = n % 16 + 16 * (n / 16 % 16 ^ count) := by
        rw [Nat.pow_succ, Nat.mul_comm, Nat.mod_mul]
      rw [hexDigits, hexNumber?_append, ih, split]
      simp only [Option.bind_some, hexNumber?, hexValue?_hexDigit, Nat.pow_succ, Option.some.injEq]
      rw [Nat.add_mul, Nat.mul_assoc]
      omega

/-- The first of the digits. -/
theorem hexDigits_succ (count n : Nat) :
    hexDigits (count + 1) n = hexDigit (n / 16 ^ count) :: hexDigits count n := by
  induction count generalizing n with
  | zero => simp [hexDigits]
  | succ count ih =>
      rw [hexDigits, ih, List.cons_append, Nat.div_div_eq_div_mul, ← Nat.pow_succ']
      rfl

theorem hexDigit_mem (n : Nat) : hexDigit n ∈ "0123456789abcdef".toList := by
  have digits : ∀ m < 16, Nat.digitChar m ∈ "0123456789abcdef".toList := by decide
  exact digits (n % 16) (Nat.mod_lt n (by decide))

/-! ### Groups -/

theorem length_hyphenate {counts : List Nat} {digits : List Char}
    (enough : digits.length = counts.sum) :
    (hyphenate counts digits).length = digits.length + (counts.length - 1) := by
  fun_induction hyphenate counts digits with
  | case1 digits => simpa using enough.symm
  | case2 count digits => rfl
  | case3 count rest digits more ih =>
      rw [List.sum_cons] at enough
      have left : (digits.drop count).length = rest.sum := by
        rw [List.length_drop]
        omega
      have grouped : rest.length ≠ 0 := fun empty => more (List.length_eq_zero_iff.mp empty)
      simp only [List.length_append, List.length_cons, ih left, List.length_take]
      omega

/-- Between hyphens at the right places are the digits. -/
theorem unhyphenate?_hyphenate {counts : List Nat} {digits : List Char} (grouped : counts ≠ [])
    (enough : digits.length = counts.sum) :
    unhyphenate? counts (hyphenate counts digits) = some digits := by
  fun_induction hyphenate counts digits with
  | case1 digits => exact absurd rfl grouped
  | case2 count digits => simp_all [unhyphenate?]
  | case3 count rest digits more ih =>
      rw [List.sum_cons] at enough
      have left : (digits.drop count).length = rest.sum := by
        rw [List.length_drop]
        omega
      have taken : (digits.take count).length = count := by
        rw [List.length_take]
        omega
      rw [unhyphenate?.eq_3 _ _ _ more, List.drop_left' taken]
      simp only [ih more left, List.take_left' taken, Option.map_some, List.take_append_drop]

/-! ### Identifiers -/

theorem ofDigits?_hexDigits (id : SessionId) :
    ofDigits? (hexDigits 32 id.bits.toNat) = some id := by
  have bound : id.bits.toNat % 16 ^ 32 = id.bits.toNat := Nat.mod_eq_of_lt id.bits.isLt
  rw [ofDigits?, if_pos (length_hexDigits 32 _), hexNumber?_hexDigits, Nat.zero_mul, Nat.zero_add,
    bound, Option.map_some, BitVec.ofNat_toNat, BitVec.setWidth_eq]

/-- A text that starts with a digit is in no braces and after no name. -/
theorem bareForm_digit (n : Nat) (s : List Char) :
    bareForm (hexDigit n :: s) = hexDigit n :: s := by
  have digit := hexDigit_mem n
  generalize hexDigit n = c at digit
  have brace : c ≠ '{' := by
    rintro rfl
    exact absurd digit (by decide)
  have small : c ≠ 'u' := by
    rintro rfl
    exact absurd digit (by decide)
  have capital : c ≠ 'U' := by
    rintro rfl
    exact absurd digit (by decide)
  have unnamed : namespaces.find? (·.isPrefixOf (c :: s)) = none := by
    simp [namespaces, Ne.symm small, Ne.symm capital]
  unfold bareForm
  split
  · rename_i first
    exact absurd (List.cons.inj first).1 brace
  · rw [unnamed]

/-- The text of an identifier names it. -/
theorem parse?_text (id : SessionId) : parse? id.text = some id := by
  have enough : (hexDigits 32 id.bits.toNat).length = groups.sum := length_hexDigits 32 _
  have long : (hyphenate groups (hexDigits 32 id.bits.toNat)).length = 36 := by
    rw [length_hyphenate enough, length_hexDigits]
    rfl
  have bare : bareForm (hyphenate groups (hexDigits 32 id.bits.toNat)) =
      hyphenate groups (hexDigits 32 id.bits.toNat) := by
    rw [hexDigits_succ]
    exact bareForm_digit _ _
  rw [parse?, text, String.toList_ofList, long, if_neg (by decide), bare,
    unhyphenate?_hyphenate (by decide) enough, Option.bind_some, ofDigits?_hexDigits]

end Counsel.SessionId
