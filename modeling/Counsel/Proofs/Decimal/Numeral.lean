import Counsel.Decimal.Numeral
import Counsel.Proofs.Decimal.Binary64
import Counsel.Text.Pattern
import Mathlib.Data.List.TakeWhile

/-!
What numerals are, and what they denote.

`IsNumeral` builds a numeral from its parts; `readNumeral_eq_some_iff` says that nothing else is
read, the names of the numbers that are not finite apart (`Names`).

A numeral has an exact value (`Denotes`), whatever the binary64 numbers are. An integer of at most
`2 ^ 53` is read without loss (`readNumeral_denotes`), with trailing zeros behind a point or with
an exponent as well as plain.
-/

namespace Counsel.Decimal

open Binary64 (signed)
open Text (isDigit_iff)

/-! ### The parts of a numeral -/

/-- An optional sign; it tells whether the number is negative. -/
inductive IsSign : Bool → List Char → Prop where
  | absent : IsSign false []
  | plus : IsSign false ['+']
  | minus : IsSign true ['-']

/-- ASCII digits, of which there may be none. -/
def IsDigits (s : List Char) : Prop := ∀ c ∈ s, c.isDigit = true

instance (s : List Char) : Decidable (IsDigits s) := List.decidableBAll _ s

/-- Digits with an optional point: the natural they denote without the point, and how many digits
stand behind it. -/
inductive IsMantissa : Nat → Nat → List Char → Prop where
  | plain {digits : List Char} (some : digits ≠ []) (each : IsDigits digits) :
      IsMantissa (digitsValue 0 digits) 0 digits
  | pointed {whole fraction : List Char} (some : whole ++ fraction ≠ []) (left : IsDigits whole)
      (right : IsDigits fraction) :
      IsMantissa (digitsValue 0 (whole ++ fraction)) fraction.length (whole ++ '.' :: fraction)

/-- An optional exponent of ten. -/
inductive IsExponent : Int → List Char → Prop where
  | absent : IsExponent 0 []
  | marked {mark : Char} {negative : Bool} {sign digits : List Char}
      (marks : mark = 'e' ∨ mark = 'E') (signs : IsSign negative sign) (some : digits ≠ [])
      (each : IsDigits digits) :
      IsExponent (if negative then -(digitsValue 0 digits : Int) else digitsValue 0 digits)
        (mark :: (sign ++ digits))

/-- A numeral and its parts; its value is `± significand * 10 ^ exponent`. -/
inductive IsNumeral : Bool → Nat → Int → List Char → Prop where
  | made {negative : Bool} {significand places : Nat} {exponent : Int}
      {sign mantissa tail : List Char} (signs : IsSign negative sign)
      (digits : IsMantissa significand places mantissa) (power : IsExponent exponent tail) :
      IsNumeral negative significand (exponent - places) (sign ++ (mantissa ++ tail))

/-- The name of a number that is not finite, after an optional sign and in any case. -/
inductive Names : Binary64 → List Char → Prop where
  | infinite {negative : Bool} {sign word : List Char} (signs : IsSign negative sign)
      (name : word.map Char.toLower = "inf".toList ∨ word.map Char.toLower = "infinity".toList) :
      Names (.infinite negative) (sign ++ word)
  | nan {negative : Bool} {sign word : List Char} (signs : IsSign negative sign)
      (name : word.map Char.toLower = "nan".toList) : Names .nan (sign ++ word)

/-- The text is a numeral with this value. -/
def Denotes (text : List Char) (q : ℚ) : Prop :=
  ∃ negative significand exponent, IsNumeral negative significand exponent text ∧
    signed negative (significand * 10 ^ exponent) = q

variable {negative : Bool} {significand places : Nat} {exponent : Int}
variable {digits sign mantissa tail text : List Char}

theorem IsDigits.head {c : Char} (each : IsDigits digits) (first : c ∈ digits.head?) :
    c.isDigit = true := each c (List.mem_of_mem_head? first)

/-- Digits are taken from a text up to what is no digit. -/
theorem IsDigits.cut (each : IsDigits digits) (ends : ∀ c ∈ tail.head?, c.isDigit = false) :
    (digits ++ tail).takeWhile Char.isDigit = digits ∧
      (digits ++ tail).dropWhile Char.isDigit = tail := by
  rw [List.takeWhile_append_of_pos each, List.dropWhile_append_of_pos each]
  cases tail with
  | nil => simp
  | cons c tail =>
      have stop : ¬ c.isDigit = true := by simp [ends c rfl]
      rw [List.takeWhile_cons_of_neg stop, List.dropWhile_cons_of_neg stop]
      exact ⟨List.append_nil _, rfl⟩

/-- What is taken are digits, and nothing is lost. -/
theorem exists_cut (s : List Char) :
    ∃ digits tail, s = digits ++ tail ∧ IsDigits digits ∧ s.takeWhile Char.isDigit = digits ∧
      s.dropWhile Char.isDigit = tail :=
  ⟨_, _, List.takeWhile_append_dropWhile.symm, fun _ member => List.mem_takeWhile_imp member,
    rfl, rfl⟩

/-- The digits of a natural, with or without a sign, denote it. -/
theorem denotes_toDigits (signs : IsSign negative sign) (n : Nat) :
    Denotes (sign ++ Nat.toDigits 10 n) (signed negative n) := by
  have each : IsDigits (Nat.toDigits 10 n) := fun _ member =>
    Nat.isDigit_of_mem_toDigits (by decide) (by decide) member
  have value : digitsValue 0 (Nat.toDigits 10 n) = n :=
    Nat.ofDigitChars_toDigits (by decide) (by decide)
  have numeral := IsNumeral.made signs (.plain Nat.toDigits_ne_nil each) .absent
  rw [value, List.append_nil] at numeral
  exact ⟨negative, n, _, numeral, by simp⟩

/-! ### Signs -/

/-- Where a text goes on with something other than a sign, a sign in front of it is split off. -/
theorem splitSign_append {rest : List Char} (signs : IsSign negative sign)
    (next : ∀ c ∈ rest.head?, c ≠ '-' ∧ c ≠ '+') : splitSign (sign ++ rest) = (negative, rest) := by
  cases signs with
  | absent =>
      cases rest with
      | nil => rfl
      | cons c rest =>
          obtain ⟨minus, plus⟩ := next c rfl
          rw [List.nil_append, splitSign]
          · rintro _ ⟨⟩
            exact minus rfl
          · rintro _ ⟨⟩
            exact plus rfl
  | plus => rfl
  | minus => rfl

/-- What is split off is a sign. -/
theorem exists_sign (text : List Char) :
    ∃ sign, IsSign (splitSign text).1 sign ∧ text = sign ++ (splitSign text).2 := by
  unfold splitSign
  split
  · exact ⟨_, .minus, rfl⟩
  · exact ⟨_, .plus, rfl⟩
  · exact ⟨_, .absent, rfl⟩

theorem not_sign_of_isDigit {c : Char} (digit : c.isDigit = true) : c ≠ '-' ∧ c ≠ '+' := by
  constructor <;> rintro rfl <;> cases digit

/-! ### Exponents -/

theorem IsExponent.head {c : Char} (power : IsExponent exponent tail) (first : c ∈ tail.head?) :
    c = 'e' ∨ c = 'E' := by
  cases power with
  | absent => cases first
  | marked marks =>
      cases first
      exact marks

/-- An exponent begins with no digit and no point, so digits before it end there. -/
theorem IsExponent.ends (power : IsExponent exponent tail) :
    ∀ c ∈ tail.head?, c.isDigit = false := by
  intro c first
  rcases power.head first with rfl | rfl <;> rfl

theorem readExponent_eq_some_iff :
    readExponent tail = some exponent ↔ IsExponent exponent tail := by
  constructor
  · intro read
    cases tail with
    | nil =>
        cases read
        exact .absent
    | cons mark rest =>
        obtain ⟨sign, signs, whole⟩ := exists_sign rest
        simp only [readExponent] at read
        split at read
        · rename_i marks
          split at read
          · rename_i digits
            cases read
            have made := IsExponent.marked marks signs digits.1 (List.all_eq_true.mp digits.2)
            rwa [← whole] at made
          · cases read
        · cases read
  · intro power
    cases power with
    | absent => rfl
    | @marked mark negative sign digits marks signs some each =>
        have split : splitSign (sign ++ digits) = (negative, digits) :=
          splitSign_append signs fun c first => not_sign_of_isDigit (each.head first)
        have all : digits ≠ [] ∧ digits.all Char.isDigit = true :=
          ⟨some, List.all_eq_true.mpr each⟩
        simp only [readExponent, if_pos marks, split, if_pos all]

/-! ### Numerals -/

theorem IsMantissa.exists_head (made : IsMantissa significand places mantissa)
    (tail : List Char) :
    ∃ c rest, mantissa ++ tail = c :: rest ∧ (c.isDigit = true ∨ c = '.') := by
  cases made with
  | plain some each =>
      obtain ⟨c, digits, rfl⟩ := List.exists_cons_of_ne_nil some
      exact ⟨c, _, rfl, Or.inl (each c List.mem_cons_self)⟩
  | @pointed whole fraction some left right =>
      cases whole with
      | nil => exact ⟨'.', _, rfl, Or.inr rfl⟩
      | cons c whole => exact ⟨c, _, rfl, Or.inl (left c List.mem_cons_self)⟩

/-- What is beyond the capitals, or before them, stays as it is. -/
theorem toLower_of_not_capital {c : Char} (other : ¬ (65 ≤ c.toNat ∧ c.toNat ≤ 90)) :
    c.toLower = c := by
  have letter : ¬ (c.val ≥ 'A'.val ∧ c.val ≤ 'Z'.val) := by
    rwa [ge_iff_le, UInt32.le_iff_toNat_le, UInt32.le_iff_toNat_le]
  exact dif_neg letter

theorem toLower_of_isDigit {c : Char} (digit : c.isDigit = true) : c.toLower = c := by
  have := isDigit_iff.mp digit
  exact toLower_of_not_capital (by omega)

/-- The names of numbers that are not finite. -/
def names : List (List Char) := ["inf".toList, "infinity".toList, "nan".toList]

/-- Names begin with letters. -/
theorem head_of_name {name : List Char} {c : Char} (known : name ∈ names) (first : c ∈ name.head?) :
    c.isDigit = false ∧ c ≠ '.' ∧ c ≠ '-' ∧ c ≠ '+' := by
  have letters : ∀ name ∈ names,
      name.head?.all (fun c => !c.isDigit && c != '.' && c != '-' && c != '+') = true := by decide
  have letter := letters name known
  rw [Option.mem_def.mp first] at letter
  simpa [and_assoc] using letter

/-- What begins with a digit or a point is no name. -/
theorem IsMantissa.not_name (made : IsMantissa significand places mantissa)
    (tail : List Char) :
    (mantissa ++ tail).map Char.toLower ∉ names := by
  obtain ⟨c, rest, whole, first⟩ := made.exists_head tail
  rw [whole, List.map_cons]
  intro known
  obtain ⟨letter, point, -⟩ := head_of_name (c := c.toLower) known rfl
  rcases first with digit | rfl
  · rw [toLower_of_isDigit digit, digit] at letter
    cases letter
  · exact point rfl

/-- What begins with a digit or a point does not begin with a sign. -/
theorem IsMantissa.not_sign (made : IsMantissa significand places mantissa)
    (tail : List Char) :
    ∀ c ∈ (mantissa ++ tail).head?, c ≠ '-' ∧ c ≠ '+' := by
  obtain ⟨c, rest, whole, first⟩ := made.exists_head tail
  rw [whole]
  rintro _ ⟨⟩
  rcases first with digit | rfl
  · exact not_sign_of_isDigit digit
  · decide

/-- The number read from a numeral is that of its parts. -/
theorem readNumeral_of_isNumeral (numeral : IsNumeral negative significand exponent text) :
    readNumeral text = some (ofScientific negative significand exponent) := by
  cases numeral with
  | @made places exponent sign mantissa tail signs digits power =>
      have split := splitSign_append signs (digits.not_sign tail)
      obtain ⟨infinity, nan⟩ : ¬ ((mantissa ++ tail).map Char.toLower = "inf".toList ∨
          (mantissa ++ tail).map Char.toLower = "infinity".toList) ∧
          (mantissa ++ tail).map Char.toLower ≠ "nan".toList := by
        simpa [names, not_or, and_assoc] using digits.not_name tail
      have raised : readExponent tail = some exponent := readExponent_eq_some_iff.mpr power
      simp only [readNumeral, split, if_neg infinity, if_neg nan]
      cases digits with
      | plain some each =>
          obtain ⟨taken, left⟩ := each.cut power.ends
          simp only [taken, left]
          split
          · rcases power.head rfl with bad | bad <;> cases bad
          · simp only [List.append_nil, and_true, if_neg some, raised]
            rfl
      | @pointed whole fraction some left right =>
          have point : ∀ c ∈ ('.' :: (fraction ++ tail)).head?, c.isDigit = false := by
            rintro c ⟨⟩
            rfl
          obtain ⟨taken, rest⟩ := left.cut point
          obtain ⟨taken', rest'⟩ := right.cut power.ends
          simp only [List.append_assoc, List.cons_append, taken, rest, taken', rest', raised]
          rw [if_neg (by simpa using some)]
          rfl

/-- What is read is a numeral or a name. -/
theorem isNumeral_or_names {x : Binary64} (read : readNumeral text = some x) :
    (∃ negative significand exponent, IsNumeral negative significand exponent text ∧
      ofScientific negative significand exponent = x) ∨ Names x text := by
  obtain ⟨sign, signs, whole⟩ := exists_sign text
  unfold readNumeral at read
  generalize splitSign text = cut at signs whole read
  obtain ⟨negative, body⟩ := cut
  subst whole
  dsimp only at read signs ⊢
  split at read
  · rename_i name
    cases read
    exact Or.inr (.infinite signs name)
  split at read
  · rename_i name
    cases read
    exact Or.inr (.nan signs name)
  left
  obtain ⟨whole, back, cut, digits, taken, left⟩ := exists_cut body
  rw [taken, left] at read
  subst cut
  split at read
  · -- A point: the fraction is what is taken of the rest.
    rename_i rest _ _
    obtain ⟨fraction, tail, rfl, decimals, taken', left'⟩ := exists_cut rest
    rw [taken', left'] at read
    split at read
    · cases read
    · rename_i some
      obtain ⟨exponent, raised, value⟩ := Option.map_eq_some_iff.mp read
      have made := IsNumeral.made signs (.pointed (by simpa using some) digits decimals)
        (readExponent_eq_some_iff.mp raised)
      rw [List.append_assoc, List.cons_append] at made
      exact ⟨_, _, _, made, value⟩
  · split at read
    · cases read
    · rename_i some
      obtain ⟨exponent, raised, value⟩ := Option.map_eq_some_iff.mp read
      rw [List.append_nil] at value
      exact ⟨_, _, _, .made signs (.plain (by simpa using some) digits)
        (readExponent_eq_some_iff.mp raised), value⟩

/-- A word that is a name but for its case does not begin with a sign. -/
theorem not_sign_of_name {word : List Char} (known : word.map Char.toLower ∈ names) :
    ∀ c ∈ word.head?, c ≠ '-' ∧ c ≠ '+' := by
  intro c first
  have low : c.toLower ∈ (word.map Char.toLower).head? := by
    rw [List.head?_map, Option.mem_def.mp first]
    rfl
  obtain ⟨-, -, minus, plus⟩ := head_of_name known low
  constructor
  · rintro rfl
    exact minus rfl
  · rintro rfl
    exact plus rfl

/-- What is split off before a name leaves one of three words. -/
theorem Names.exists_word {x : Binary64} (named : Names x text) :
    ∃ negative sign word, IsSign negative sign ∧ text = sign ++ word ∧
      word.map Char.toLower ∈ names := by
  cases named with
  | infinite signs name =>
      refine ⟨_, _, _, signs, rfl, ?_⟩
      rcases name with name | name <;> rw [name] <;> decide
  | nan signs name =>
      refine ⟨_, _, _, signs, rfl, ?_⟩
      rw [name]
      decide

/-- The name of a number is read as that number. -/
theorem readNumeral_of_names {x : Binary64} (named : Names x text) : readNumeral text = some x := by
  cases named with
  | infinite signs name =>
      have next := not_sign_of_name (by rcases name with name | name <;> rw [name] <;> decide)
      simp only [readNumeral, splitSign_append signs next, if_pos name]
  | @nan negative sign word signs name =>
      have next := not_sign_of_name (by rw [name]; decide)
      have finite : ¬ (word.map Char.toLower = "inf".toList ∨
          word.map Char.toLower = "infinity".toList) := by
        rw [name]
        decide
      simp only [readNumeral, splitSign_append signs next, if_neg finite, if_pos name]

/-- Exactly numerals and names are read, each as the number it stands for. -/
theorem readNumeral_eq_some_iff {x : Binary64} :
    readNumeral text = some x ↔
      (∃ negative significand exponent, IsNumeral negative significand exponent text ∧
        ofScientific negative significand exponent = x) ∨ Names x text := by
  constructor
  · exact isNumeral_or_names
  · rintro (⟨negative, significand, exponent, numeral, rfl⟩ | names)
    · exact readNumeral_of_isNumeral numeral
    · exact readNumeral_of_names names

/-- A text is read exactly if it has a value or is a name. -/
theorem isSome_readNumeral_iff :
    (readNumeral text).isSome = true ↔ (∃ q, Denotes text q) ∨ ∃ x, Names x text := by
  rw [Option.isSome_iff_exists]
  constructor
  · rintro ⟨x, read⟩
    rcases readNumeral_eq_some_iff.mp read with ⟨_, _, _, numeral, -⟩ | names
    · exact Or.inl ⟨_, _, _, _, numeral, rfl⟩
    · exact Or.inr ⟨x, names⟩
  · rintro (⟨_, _, _, _, numeral, -⟩ | ⟨x, names⟩)
    · exact ⟨_, readNumeral_of_isNumeral numeral⟩
    · exact ⟨x, readNumeral_of_names names⟩

/-- The name of a number that is not finite is no numeral. -/
theorem Names.not_denotes {x : Binary64} (named : Names x text) : ¬ ∃ q, Denotes text q := by
  obtain ⟨negative, sign, word, signs, rfl, name⟩ := named.exists_word
  rintro ⟨_, _, _, _, numeral, -⟩
  generalize whole : sign ++ word = text at numeral
  cases numeral with
  | @made places exponent sign' mantissa tail signs' digits power =>
      have split := splitSign_append signs' (digits.not_sign tail)
      rw [← whole, splitSign_append signs (not_sign_of_name name)] at split
      obtain rfl : word = mantissa ++ tail := congrArg Prod.snd split
      exact digits.not_name tail name

/-! ### Characters -/

theorem ascii_of_isDigit {c : Char} (digit : c.isDigit = true) : c.toNat < 128 := by
  have := isDigit_iff.mp digit
  omega

/-- Only ASCII characters become ASCII letters. -/
theorem ascii_of_toLower {c : Char} (low : c.toLower.toNat < 128) : c.toNat < 128 := by
  by_cases capital : 65 ≤ c.toNat ∧ c.toNat ≤ 90
  · omega
  · rwa [toLower_of_not_capital capital] at low

theorem IsSign.ascii (signs : IsSign negative sign) : ∀ c ∈ sign, c.toNat < 128 := by
  have marks : sign.all (·.toNat < 128) = true := by cases signs <;> decide
  exact fun c member => of_decide_eq_true (List.all_eq_true.mp marks c member)

theorem IsMantissa.ascii (made : IsMantissa significand places mantissa) :
    ∀ c ∈ mantissa, c.toNat < 128 := by
  intro c member
  cases made with
  | plain some each => exact ascii_of_isDigit (each c member)
  | pointed some left right =>
      rcases List.mem_append.mp member with digit | other
      · exact ascii_of_isDigit (left c digit)
      · rcases List.mem_cons.mp other with rfl | digit
        · decide
        · exact ascii_of_isDigit (right c digit)

theorem IsExponent.ascii (power : IsExponent exponent tail) : ∀ c ∈ tail, c.toNat < 128 := by
  intro c member
  cases power with
  | absent => cases member
  | marked marks signs some each =>
      rcases List.mem_cons.mp member with rfl | other
      · rcases marks with rfl | rfl <;> decide
      · rcases List.mem_append.mp other with sign | digit
        · exact signs.ascii c sign
        · exact ascii_of_isDigit (each c digit)

theorem Names.ascii {x : Binary64} (named : Names x text) : ∀ c ∈ text, c.toNat < 128 := by
  obtain ⟨negative, sign, word, signs, rfl, name⟩ := named.exists_word
  have letters : ∀ name ∈ names, name.all (·.toNat < 128) = true := by decide
  intro c member
  rcases List.mem_append.mp member with mark | letter
  · exact signs.ascii c mark
  · have low := List.all_eq_true.mp (letters _ name) _ (List.mem_map_of_mem letter)
    exact ascii_of_toLower (of_decide_eq_true low)

/-- What is read is written in ASCII characters. -/
theorem ascii_of_readNumeral {x : Binary64} (read : readNumeral text = some x) :
    ∀ c ∈ text, c.toNat < 128 := by
  rcases readNumeral_eq_some_iff.mp read with ⟨_, _, _, numeral, -⟩ | names
  · cases numeral with
    | made signs digits power =>
        simp only [List.mem_append]
        rintro c (sign | digit | tail)
        · exact signs.ascii c sign
        · exact digits.ascii c digit
        · exact power.ascii c tail
  · exact names.ascii

/-! ### Values -/

theorem lt_pow_length (n : Nat) : n < 10 ^ (Nat.toDigits 10 n).length :=
  (Nat.length_toDigits_le_iff (by decide) Nat.length_toDigits_pos).mp le_rfl

theorem pow_length_le {n : Nat} (positive : 0 < n) :
    10 ^ ((Nat.toDigits 10 n).length - 1) ≤ n := by
  by_contra less
  rcases Nat.eq_zero_or_pos ((Nat.toDigits 10 n).length - 1) with one | more
  · rw [one] at less
    omega
  · have shorter := (Nat.length_toDigits_le_iff (b := 10) (by decide) more).mpr (not_le.mp less)
    omega

/-- A positive integer below `10 ^ 16`, given with an exponent, has between one and sixteen digits
in front of the point. -/
theorem magnitude_bounds {n : Nat} (nonzero : 0 < n) (small : n < 10 ^ 16)
    (value : (significand : ℚ) * 10 ^ exponent = n) :
    0 < exponent + (Nat.toDigits 10 significand).length ∧
      exponent + (Nat.toDigits 10 significand).length ≤ 16 := by
  have ten : (1 : ℚ) < 10 := by norm_num
  have power : (0 : ℚ) < 10 ^ exponent := by positivity
  have positive : 0 < significand := by
    rcases Nat.eq_zero_or_pos significand with rfl | positive
    · rw [Nat.cast_zero, zero_mul] at value
      exact (nonzero.ne (by exact_mod_cast value)).elim
    · exact positive
  have below := lt_pow_length significand
  have above := pow_length_le positive
  have some : 0 < (Nat.toDigits 10 significand).length := Nat.length_toDigits_pos
  generalize (Nat.toDigits 10 significand).length = length at below above some ⊢
  have low : (10 : ℚ) ^ (0 : ℤ) < 10 ^ (exponent + length) := by
    calc (10 : ℚ) ^ (0 : ℤ) = 1 := zpow_zero _
      _ ≤ n := by exact_mod_cast nonzero
      _ = significand * 10 ^ exponent := value.symm
      _ < 10 ^ length * 10 ^ exponent := mul_lt_mul_of_pos_right (by exact_mod_cast below) power
      _ = 10 ^ (exponent + length) := by
          rw [← zpow_natCast, ← zpow_add₀ (by norm_num), add_comm]
  have high : (10 : ℚ) ^ (exponent + length - 1) < 10 ^ (16 : ℤ) := by
    calc (10 : ℚ) ^ (exponent + length - 1) = 10 ^ (length - 1) * 10 ^ exponent := by
          rw [← zpow_natCast, ← zpow_add₀ (by norm_num), Nat.cast_pred some]
          ring_nf
      _ ≤ significand * 10 ^ exponent :=
          mul_le_mul_of_nonneg_right (by exact_mod_cast above) power.le
      _ = n := value
      _ < 10 ^ (16 : ℤ) := by exact_mod_cast small
  have := (zpow_lt_zpow_iff_right₀ ten).mp low
  have := (zpow_lt_zpow_iff_right₀ ten).mp high
  omega

/-- An integer of at most `2 ^ 53` is not rounded, whatever significand and exponent it is given
with. -/
theorem ofScientific_denotes {n : Nat} (value : (significand : ℚ) * 10 ^ exponent = n)
    (small : n ≤ 2 ^ 53) :
    (ofScientific negative significand exponent).Denotes (signed negative n) := by
  have power : (10 : ℚ) ^ exponent ≠ 0 := by positivity
  rcases Nat.eq_zero_or_pos significand with rfl | positive
  · have zero : n = 0 := by
      rw [Nat.cast_zero, zero_mul] at value
      exact_mod_cast value.symm
    simpa [ofScientific, zero, signed] using Binary64.zero_denotes negative
  · have nonzero : 0 < n := by
      have product : (0 : ℚ) < significand * 10 ^ exponent := by positivity
      rw [value] at product
      exact_mod_cast product
    obtain ⟨low, high⟩ := magnitude_bounds nonzero (by omega) value
    have near : ¬ 400 < exponent + ((Nat.toDigits 10 significand).length : Int) := by omega
    have large : ¬ exponent + ((Nat.toDigits 10 significand).length : Int) < -400 := by omega
    simp only [ofScientific, if_neg positive.ne', if_neg near, if_neg large, Binary64.ofDecimal]
    split
    · obtain ⟨k, rfl⟩ : ∃ k : ℕ, exponent = -k := ⟨(-exponent).toNat, by omega⟩
      have tens : 0 < Nat.pow 10 k := Nat.pow_pos (by decide)
      have whole : significand = n * Nat.pow 10 k := by
        rw [zpow_neg, zpow_natCast, ← div_eq_mul_inv, div_eq_iff (by positivity)] at value
        exact_mod_cast value
      rw [neg_neg, Int.toNat_natCast]
      exact Binary64.ofRatio_denotes negative whole tens small
    · obtain ⟨k, rfl⟩ : ∃ k : ℕ, exponent = k := ⟨exponent.toNat, by omega⟩
      have whole : significand * Nat.pow 10 k = n * 1 := by
        rw [zpow_natCast] at value
        rw [mul_one]
        exact_mod_cast value
      exact Binary64.ofRatio_denotes negative whole Nat.one_pos small

/-- A text whose value is an integer of at most `2 ^ 53` is read as a number with that value. -/
theorem readNumeral_denotes {v : Int} (denotes : Denotes text v) (small : |v| ≤ 2 ^ 53) :
    ∃ x, readNumeral text = some x ∧ x.Denotes v := by
  obtain ⟨negative, significand, exponent, numeral, value⟩ := denotes
  have size : (significand : ℚ) * 10 ^ exponent = v.natAbs := by
    rw [Nat.cast_natAbs, Int.cast_abs, ← value, Binary64.abs_signed (by positivity)]
  have bound : v.natAbs ≤ 2 ^ 53 := by
    have := Int.natCast_natAbs v
    omega
  refine ⟨_, readNumeral_of_isNumeral numeral, ?_⟩
  rw [← value, size]
  exact ofScientific_denotes size bound

end Counsel.Decimal
