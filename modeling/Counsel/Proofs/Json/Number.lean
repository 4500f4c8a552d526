import Counsel.Json.Document
import Counsel.Proofs.Decimal.Numeral
import Counsel.Proofs.Decimal.Shortest

/-!
The texts of numbers, read again.

Whatever number is written, its text is a numeral of JSON or the word `null`
(`Number.exists_chars`), so it is read to its end wherever a value may stand (`readDoc_number`).
What it is read as, `Number.reread`, need not be the number: a numeral that is no integer is read
the quick way. Integers of 64 bits are read back (`Number.IsShort.readsBack`).
-/

namespace Counsel.Json

open Counsel.Decimal

/-! ### Numerals -/

/-- The characters of a fraction. -/
def fractionChars : Option (List Char) → List Char
  | none => []
  | some digits => '.' :: digits

/-- The characters of an exponent, as numbers are written with one. -/
def exponentChars : Option (Bool × List Char) → List Char
  | none => []
  | some (below, digits) => 'e' :: (if below then '-' else '+') :: digits

/-- The characters of a numeral. -/
def Numeral.chars (n : Numeral) : List Char :=
  (if n.negative then ['-'] else []) ++
    (n.whole ++ (fractionChars n.fraction ++ exponentChars n.exponent))

/-- Digits, at least one. -/
def SomeDigits (digits : List Char) : Prop := digits ≠ [] ∧ IsDigits digits

/-- The parts of a numeral are digits, and a zero stands alone before the point. -/
structure Numeral.WellFormed (n : Numeral) : Prop where
  whole : SomeDigits n.whole
  leading : n.whole.head? = some '0' → n.whole.length ≤ 1
  fraction : ∀ digits ∈ n.fraction, SomeDigits digits
  exponent : ∀ e ∈ n.exponent, SomeDigits e.2

/-- What may follow a value inside another one, or at the end of a text. -/
def Closes (rest : List Char) : Prop := ∀ c ∈ rest.head?, c = ',' ∨ c = ']' ∨ c = '}'

section

variable {digits rest : List Char}

/-- Digits are read up to what is no digit. -/
theorem digitsOf_append (each : IsDigits digits) (ends : ∀ c ∈ rest.head?, c.isDigit = false) :
    digitsOf (digits ++ rest) = digits := (each.cut ends).1

theorem Closes.not_isDigit (closes : Closes rest) : ∀ c ∈ rest.head?, c.isDigit = false := by
  intro c first
  rcases closes c first with rfl | rfl | rfl <;> rfl

theorem readExponent_chars {exponent : Option (Bool × List Char)}
    (formed : ∀ e ∈ exponent, SomeDigits e.2) (closes : Closes rest) :
    readExponent (exponentChars exponent ++ rest) = some (exponent, rest) := by
  cases exponent with
  | none =>
      cases rest with
      | nil => rfl
      | cons c rest => rcases closes c rfl with rfl | rfl | rfl <;> rfl
  | some e =>
      obtain ⟨below, digits⟩ := e
      obtain ⟨some, each⟩ := formed _ rfl
      have taken := digitsOf_append each closes.not_isDigit
      cases below <;> simp [exponentChars, readExponent, taken, some]

/-- What follows the digits of a number is no digit. -/
theorem exponentChars_not_isDigit (exponent : Option (Bool × List Char)) (closes : Closes rest) :
    ∀ c ∈ (exponentChars exponent ++ rest).head?, c.isDigit = false := by
  cases exponent with
  | none => exact closes.not_isDigit
  | some e =>
      rintro c ⟨⟩
      rfl

theorem readFraction_chars {fraction : Option (List Char)}
    (formed : ∀ digits ∈ fraction, SomeDigits digits) (exponent : Option (Bool × List Char))
    (closes : Closes rest) :
    readFraction (fractionChars fraction ++ (exponentChars exponent ++ rest)) =
      some (fraction, exponentChars exponent ++ rest) := by
  cases fraction with
  | none =>
      cases exponent with
      | some e => rfl
      | none =>
          cases rest with
          | nil => rfl
          | cons c rest => rcases closes c rfl with rfl | rfl | rfl <;> rfl
  | some digits =>
      obtain ⟨some, each⟩ := formed _ rfl
      have taken := digitsOf_append each (exponentChars_not_isDigit exponent closes)
      simp [fractionChars, readFraction, taken, some]

theorem fractionChars_not_isDigit (fraction : Option (List Char))
    (exponent : Option (Bool × List Char)) (closes : Closes rest) :
    ∀ c ∈ (fractionChars fraction ++ (exponentChars exponent ++ rest)).head?,
      c.isDigit = false := by
  cases fraction with
  | none => exact exponentChars_not_isDigit exponent closes
  | some digits =>
      rintro c ⟨⟩
      rfl

/-- A numeral is read from its characters, wherever a value may stand. -/
theorem readNumeral_chars {n : Numeral} (formed : n.WellFormed) (closes : Closes rest) :
    readNumeral (n.chars ++ rest) = some (n, rest) := by
  obtain ⟨negative, whole, fraction, exponent⟩ := n
  obtain ⟨⟨some, each⟩, leading, fractional, exponential⟩ := formed
  dsimp only at some each leading fractional exponential
  have taken := digitsOf_append each (fractionChars_not_isDigit fraction exponent closes)
  have next := readFraction_chars fractional exponent closes
  have last := readExponent_chars exponential closes
  cases negative with
  | true => simpa [readNumeral, Numeral.chars, taken, next, last] using And.intro some leading
  | false =>
      obtain ⟨c, more, rfl⟩ := List.exists_cons_of_ne_nil some
      have minus : c ≠ '-' := (not_sign_of_isDigit (each c List.mem_cons_self)).1
      rw [List.cons_append] at taken
      simpa [readNumeral, Numeral.chars, taken, next, last, minus] using leading

/-- A numeral is a document, wherever a value may stand. -/
theorem readDoc_chars_numeral {n : Numeral} (formed : n.WellFormed) (closes : Closes rest)
    (fuel : Nat) : readDoc (fuel + 1) (n.chars ++ rest) = (.number n.value, some rest) := by
  have read := readNumeral_chars formed closes
  obtain ⟨c, more, cons, first⟩ : ∃ c more, n.chars ++ rest = c :: more ∧
      (c = '-' ∨ c.isDigit = true) := by
    obtain ⟨negative, whole, fraction, exponent⟩ := n
    obtain ⟨c, more, rfl⟩ := List.exists_cons_of_ne_nil formed.whole.1
    cases negative with
    | true => exact ⟨'-', _, rfl, .inl rfl⟩
    | false => exact ⟨c, _, rfl, .inr (formed.whole.2 c List.mem_cons_self)⟩
  rw [cons] at read ⊢
  have other : ∀ e, e ≠ '-' → e.isDigit = false → c ≠ e := by
    rintro e sign digit rfl
    rcases first with minus | same
    · exact sign minus
    · exact absurd same (by simp [digit])
  have gap : isGap c = false := by simp [isGap, other]
  simp [readDoc, skipGap, gap, other, read]

end

/-! ### The texts of numbers -/

theorem someDigits_toDigits (n : Nat) : SomeDigits (Nat.toDigits 10 n) :=
  ⟨Nat.toDigits_ne_nil, fun _ member =>
    Nat.isDigit_of_mem_toDigits (by decide) (by decide) member⟩

theorem SomeDigits.append {left right : List Char} (first : IsDigits left)
    (second : SomeDigits right) : SomeDigits (left ++ right) :=
  ⟨List.append_ne_nil_of_right_ne_nil left second.1, fun c member =>
    (List.mem_append.mp member).elim (first c) (second.2 c)⟩

theorem isDigits_zeros (count : Nat) : IsDigits (List.replicate count '0') := by
  intro c member
  rw [List.eq_of_mem_replicate member]
  rfl

/-- Only zero is written with a leading zero. -/
theorem eq_zero_of_leading {n : Nat} (leading : (Nat.toDigits 10 n).head? = some '0') : n = 0 := by
  induction n using Nat.strongRecOn with
  | _ n ih =>
      rw [Nat.toDigits_eq_if (by decide)] at leading
      split at leading
      · rename_i single
        have digits : ∀ m < 10, Nat.digitChar m = '0' → m = 0 := by decide
        exact digits n single (Option.some.inj leading)
      · -- More digits would leave a leading zero to the digits of `n / 10`, which is not zero.
        rw [List.head?_append_of_ne_nil _ Nat.toDigits_ne_nil] at leading
        have nothing := ih (n / 10) (by omega) leading
        omega

/-- The characters of a numeral without a sign. -/
def IsUnsigned (s : List Char) : Prop :=
  ∃ n : Numeral, n.WellFormed ∧ n.negative = false ∧ n.chars = s

theorem isUnsigned_pointed {whole fraction : List Char} (digits : SomeDigits whole)
    (leading : whole.head? = some '0' → whole.length ≤ 1) (decimals : SomeDigits fraction) :
    IsUnsigned (whole ++ '.' :: fraction) := by
  refine ⟨⟨false, whole, fraction, none⟩, ⟨digits, leading, ?_, nofun⟩, rfl, ?_⟩
  · rintro _ ⟨⟩
    exact decimals
  · simp [Numeral.chars, fractionChars, exponentChars]

theorem isUnsigned_scientific {c : Char} (digit : c.isDigit = true) (fraction : Option (List Char))
    (decimals : ∀ digits ∈ fraction, SomeDigits digits) (below : Bool) (size : Nat) :
    IsUnsigned
      (c :: (fractionChars fraction ++ exponentChars (some (below, Nat.toDigits 10 size)))) := by
  have first : SomeDigits [c] := ⟨by simp, by simpa [IsDigits] using digit⟩
  refine ⟨⟨false, [c], fraction, some (below, Nat.toDigits 10 size)⟩,
    ⟨first, fun _ => le_rfl, decimals, ?_⟩, rfl, rfl⟩
  rintro _ ⟨⟩
  exact someDigits_toDigits size

/-- The text of digits other than zero, or of an integer as it stands, is a numeral. -/
theorem isUnsigned_text (layout : Layout) {d : Digits} (made : d.digits ≠ 0 ∨ d.exponent = 0) :
    IsUnsigned (d.text layout).toList := by
  have each := someDigits_toDigits d.digits
  have zero : (Nat.toDigits 10 d.digits).head? = some '0' →
      Nat.toDigits 10 d.digits = ['0'] ∧ d.exponent = 0 := by
    intro leading
    have nothing := eq_zero_of_leading leading
    rw [nothing]
    exact ⟨rfl, made.resolve_left (not_not_intro nothing)⟩
  simp only [Digits.text]
  generalize Nat.toDigits 10 d.digits = ds at each zero ⊢
  split
  · split
    · -- An integer: zeros for its exponent, and a zero behind the point.
      rw [String.toList_ofList]
      refine isUnsigned_pointed ?_ ?_ (someDigits_toDigits 0)
      · exact ⟨List.append_ne_nil_of_left_ne_nil each.1 _, fun c member =>
          (List.mem_append.mp member).elim (each.2 c) (isDigits_zeros _ c)⟩
      · intro leading
        rw [List.head?_append_of_ne_nil _ each.1] at leading
        obtain ⟨rfl, whole⟩ := zero leading
        simp [whole]
    · split
      · -- The point stands among the digits.
        rename_i fractional _
        have inside : (d.exponent + ds.length - 1).toNat + 1 < ds.length := by omega
        rw [String.toList_ofList]
        refine isUnsigned_pointed ?_ ?_ ?_
        · exact ⟨by simp [each.1], fun c member => each.2 c (List.mem_of_mem_take member)⟩
        · intro leading
          rw [List.head?_take, if_neg (by omega)] at leading
          exact absurd (zero leading).2 (by omega)
        · refine ⟨?_, fun c member => each.2 c (List.mem_of_mem_drop member)⟩
          simpa using inside
      · -- Zeros stand before the digits.
        rw [String.toList_ofList]
        exact isUnsigned_pointed (someDigits_toDigits 0) (fun _ => le_rfl)
          (each.append (isDigits_zeros _))
  · -- An exponent tells the place of the first digit.
    obtain ⟨c, more, rfl⟩ := List.exists_cons_of_ne_nil each.1
    have digit := each.2 c List.mem_cons_self
    have sign (leading : Int) : exponentChars (some (decide (leading < 0),
        Nat.toDigits 10 leading.natAbs)) =
        'e' :: (if leading < 0 then '-' else '+') :: Nat.toDigits 10 leading.natAbs := by
      simp [exponentChars]
    rw [String.toList_ofList, ← sign]
    cases more with
    | nil => exact isUnsigned_scientific digit none nofun _ _
    | cons e more =>
        refine isUnsigned_scientific digit (some (e :: more)) ?_ _ _
        rintro _ ⟨⟩
        exact ⟨by simp, fun c member => each.2 c (List.mem_cons_of_mem _ member)⟩

/-- The numeral of an integer. -/
def Numeral.ofInt (k : Int) : Numeral := ⟨decide (k < 0), Nat.toDigits 10 k.natAbs, none, none⟩

theorem Numeral.wellFormed_ofInt (k : Int) : (Numeral.ofInt k).WellFormed := by
  refine ⟨someDigits_toDigits _, fun leading => ?_, nofun, nofun⟩
  simp [Numeral.ofInt, eq_zero_of_leading leading]

theorem Number.toList_text_integer (k : Int) :
    (Number.integer k).text.toList = (Numeral.ofInt k).chars := by
  rw [show (Number.integer k).text = k.repr from rfl]
  cases k <;> simp [Int.repr, Numeral.chars, Numeral.ofInt, fractionChars, exponentChars]

/-- Whatever number is written, its text is a numeral or `null`. -/
theorem Number.exists_chars (n : Number) :
    n.text.toList = "null".toList ∨ ∃ m : Numeral, m.WellFormed ∧ m.chars = n.text.toList := by
  cases n with
  | integer k =>
      exact .inr ⟨Numeral.ofInt k, Numeral.wellFormed_ofInt k, (toList_text_integer k).symm⟩
  | binary x =>
      cases x with
      | nan => exact .inl rfl
      | infinite negative => exact .inl rfl
      | finite negative significand exponent =>
          obtain ⟨body, unsigned, text⟩ : ∃ body : String, IsUnsigned body.toList ∧
              (Number.binary (.finite negative significand exponent)).text =
                (if negative then "-" else "") ++ body := by
            by_cases zero : significand = 0
            · refine ⟨"0.0", isUnsigned_pointed (someDigits_toDigits 0) (fun _ => le_rfl)
                (someDigits_toDigits 0), by simp [text, Binary64.text, zero]⟩
            · have positive := Nat.pos_of_ne_zero zero
              exact ⟨_, isUnsigned_text numberLayout (shortest_digits positive exponent),
                by simp [text, Binary64.text, zero]⟩
          obtain ⟨m, formed, sign, written⟩ := unsigned
          refine .inr ⟨{ m with negative }, ⟨formed.whole, formed.leading, formed.fraction,
            formed.exponent⟩, ?_⟩
          rw [text, String.toList_append, ← written]
          cases negative <;> simp [Numeral.chars, sign]

/-- What the text of a number is read as. -/
def Number.reread (n : Number) : Doc := (Doc.read n.text.toList).1

/-- The text of a number is read to its end, wherever a value may stand. -/
theorem readDoc_number (n : Number) (fuel : Nat) {rest : List Char} (closes : Closes rest) :
    readDoc (fuel + 1) (n.text.toList ++ rest) = (n.reread, some rest) := by
  obtain ⟨d, read⟩ : ∃ d, ∀ fuel rest, Closes rest →
      readDoc (fuel + 1) (n.text.toList ++ rest) = (d, some rest) := by
    rcases n.exists_chars with null | ⟨m, formed, written⟩
    · refine ⟨.null, fun fuel rest _ => ?_⟩
      rw [null]
      simp [readDoc, skipGap, isGap, readWord]
    · refine ⟨.number m.value, fun fuel rest closes => ?_⟩
      rw [← written]
      exact readDoc_chars_numeral formed closes fuel
  have alone := read (2 * n.text.toList.length + 1) [] (by simp [Closes])
  rw [List.append_nil] at alone
  have same : n.reread = d := congrArg Prod.fst alone
  rw [same]
  exact read fuel rest closes

/-- The text of a number is read as the number, wherever a value may stand. -/
def Number.ReadsBack (n : Number) : Prop :=
  ∀ fuel rest, Closes rest →
    readDoc (fuel + 1) (n.text.toList ++ rest) = (.number (some n), some rest)

theorem Number.readsBack_iff {n : Number} : n.ReadsBack ↔ n.reread = .number (some n) := by
  constructor
  · intro back
    have read := back 0 [] (by simp [Closes])
    rw [readDoc_number n 0 (by simp [Closes])] at read
    exact congrArg Prod.fst read
  · intro same fuel rest closes
    rw [readDoc_number n fuel closes, same]

/-! ### Integers of 64 bits -/

/-- Digits only make a number greater. -/
theorem le_digitsValue (start : Nat) (digits : List Char) : start ≤ digitsValue start digits := by
  induction digits generalizing start with
  | nil => exact le_rfl
  | cons c digits ih =>
      have rest : 10 * start + digitValue c ≤ digitsValue start (c :: digits) := ih _
      omega

/-- All digits are taken where the number they make fits 64 bits. -/
theorem takeWhole_eq {start : Nat} {digits : List Char}
    (fits : digitsValue start digits ≤ greatestSignificand) :
    takeWhole start digits = (digitsValue start digits, 0) := by
  induction digits generalizing start with
  | nil => rfl
  | cons c digits ih =>
      have next : 10 * start + digitValue c ≤ digitsValue start (c :: digits) :=
        le_digitsValue _ digits
      rw [takeWhole, if_neg (by omega)]
      exact ih fits

theorem digitsValue_toDigits (n : Nat) : digitsValue 0 (Nat.toDigits 10 n) = n :=
  Nat.ofDigitChars_toDigits (by decide) (by decide)

/-- An integer of 64 bits, with a sign or without one; minus zero is kept as a binary64 number. -/
def Number.IsShort : Number → Prop
  | .integer k => -2 ^ 63 ≤ k ∧ k < 2 ^ 64
  | .binary x => x = .zero true

/-- A numeral without a point and an exponent denotes the integer of its digits, if that fits 64
bits. -/
theorem Numeral.value_of_whole (negative : Bool) {whole : List Char}
    (fits : digitsValue 0 whole ≤ greatestSignificand) :
    Numeral.value ⟨negative, whole, none, none⟩ =
      some (integerValue negative (digitsValue 0 whole)) := by
  simp [Numeral.value, takeWhole_eq fits]

theorem Numeral.value_ofInt {k : Int} (low : -2 ^ 63 ≤ k) (high : k < 2 ^ 64) :
    (Numeral.ofInt k).value = some (.integer k) := by
  have fits : k.natAbs ≤ greatestSignificand := by
    have bound : greatestSignificand = 2 ^ 64 - 1 := rfl
    omega
  have kept : integerValue (decide (k < 0)) k.natAbs = .integer k := by
    by_cases below : k < 0
    · have size : 0 < k.natAbs ∧ k.natAbs ≤ Nat.pow 2 63 := by
        have power : Nat.pow 2 63 = 2 ^ 63 := rfl
        omega
      rw [integerValue, if_pos (decide_eq_true below), if_pos size]
      exact congrArg Number.integer (by omega)
    · rw [integerValue, if_neg (by simpa using below)]
      exact congrArg Number.integer (by omega)
  rw [Numeral.ofInt, value_of_whole _ (by rwa [digitsValue_toDigits]), digitsValue_toDigits, kept]

/-- The texts of integers of 64 bits are read back. -/
theorem Number.IsShort.readsBack {n : Number} (short : n.IsShort) : n.ReadsBack := by
  intro fuel rest closes
  cases n with
  | integer k =>
      rw [Number.toList_text_integer, readDoc_chars_numeral (Numeral.wellFormed_ofInt k) closes,
        Numeral.value_ofInt short.1 short.2]
  | binary x =>
      obtain rfl : x = .zero true := short
      have formed : Numeral.WellFormed ⟨true, ['0'], some ['0'], none⟩ := by
        refine ⟨someDigits_toDigits 0, fun _ => le_rfl, ?_, nofun⟩
        rintro _ ⟨⟩
        exact someDigits_toDigits 0
      exact readDoc_chars_numeral formed closes fuel

end Counsel.Json
