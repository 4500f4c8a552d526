import Counsel.Text.Blank
import Mathlib.Data.List.DropRight

/-!
Trimming and cutting. What is trimmed has no blanks left to trim (`trim_trim`), so it does not end
with one (`getLast?_trimChars`). Cutting at a mark is the cutting of lists in general
(`splitAtMark_eq_splitOn`), so lines that are written with their ends are the lines of the text
(`lines_flatMap`). A word, and a separator that does not occur before, are found where they stand
(`words_append`, `splitOnce_append_of_not_mem`).
-/

namespace Counsel.Text

/-! ### Trimming -/

/-- No text that begins like a trimmed one has blanks to lose at its start. -/
theorem trimStartChars_of_isPrefix {s t : List Char} (begins : t <+: trimStartChars s) :
    trimStartChars t = t := by
  cases t with
  | nil => rfl
  | cons c rest =>
      obtain ⟨tail, whole⟩ := begins
      have first : (trimStartChars s).head? = some c := by rw [← whole]; rfl
      have black : ¬ isBlank c = true := by simp [head?_trimStartChars first]
      exact List.dropWhile_cons_of_neg black

theorem trimChars_trimChars (s : List Char) : trimChars (trimChars s) = trimChars s := by
  have begins : trimChars s <+: trimStartChars s := List.rdropWhile_prefix isBlank _
  have start : trimStartChars (trimChars s) = trimChars s := trimStartChars_of_isPrefix begins
  calc trimChars (trimChars s) = trimEndChars (trimStartChars (trimChars s)) := rfl
    _ = trimEndChars (trimEndChars (trimStartChars s)) := by rw [start]; rfl
    _ = trimEndChars (trimStartChars s) := List.rdropWhile_idempotent isBlank _

@[simp] theorem trim_trim (s : String) : trim (trim s) = trim s := by
  simp only [trim, String.toList_ofList, trimChars_trimChars]

/-- What is trimmed does not end with a blank. -/
theorem getLast?_trimChars {s : List Char} {c : Char} (last : c ∈ (trimChars s).getLast?) :
    isBlank c = false := by
  rw [trimChars, trimEndChars, List.getLast?_reverse] at last
  exact head?_trimStartChars last

/-- A text without a blank at either end is not trimmed. -/
theorem trimChars_of_ends {s : List Char} (first : ∀ c ∈ s.head?, isBlank c = false)
    (last : ∀ c ∈ s.getLast?, isBlank c = false) : trimChars s = s := by
  have start : trimStartChars s = s := by
    cases s with
    | nil => rfl
    | cons c rest => exact List.dropWhile_cons_of_neg (by simp [first c rfl])
  rw [trimChars, start, trimEndChars]
  cases reversed : s.reverse with
  | nil => exact (List.reverse_eq_nil_iff.mp reversed).symm
  | cons c rest =>
      have black : isBlank c = false := last c (by rw [← List.head?_reverse, reversed]; rfl)
      rw [List.dropWhile_cons_of_neg (by simp [black]), ← reversed, List.reverse_reverse]

/-- The blanks before a text that does not begin with one are trimmed, and nothing else. -/
theorem trimStartChars_append {blanks s : List Char} (all : ∀ c ∈ blanks, isBlank c = true)
    (first : ∀ c ∈ s.head?, isBlank c = false) : trimStartChars (blanks ++ s) = s := by
  rw [trimStartChars, List.dropWhile_append_of_pos all]
  cases s with
  | nil => rfl
  | cons c rest => exact List.dropWhile_cons_of_neg (by simp [first c rfl])

/-! ### Words -/

theorem wordsFrom_append {word rest : List Char} {b : Char}
    (black : ∀ c ∈ word, isBlank c = false) (blank : isBlank b = true) (current : List Char)
    (some : current ≠ [] ∨ word ≠ []) :
    wordsFrom current (word ++ b :: rest) = (current.reverse ++ word) :: words rest := by
  induction word generalizing current with
  | nil => simp [wordsFrom, words, blank, some.resolve_right (· rfl)]
  | cons c word ih =>
      rw [List.forall_mem_cons] at black
      rw [List.cons_append, wordsFrom, if_neg (by simp [black.1]), ih black.2 _ (.inl (by simp))]
      simp

/-- A word with a blank after it is the first word of a text. -/
theorem words_append {word rest : List Char} {b : Char} (some : word ≠ [])
    (black : ∀ c ∈ word, isBlank c = false) (blank : isBlank b = true) :
    words (word ++ b :: rest) = word :: words rest := by
  exact wordsFrom_append black blank [] (.inr some)

/-- Blanks before a text make no words. -/
theorem words_blanks_append {blanks : List Char} (all : ∀ c ∈ blanks, isBlank c = true)
    (rest : List Char) : words (blanks ++ rest) = words rest := by
  induction blanks with
  | nil => rfl
  | cons c blanks ih =>
      rw [List.forall_mem_cons] at all
      have : words (c :: (blanks ++ rest)) = words (blanks ++ rest) := by
        simp [words, wordsFrom, all.1]
      rw [List.cons_append, this, ih all.2]

/-! ### Separators and lines -/

/-- A separator of two characters or more is found at the first place of its second, if that
follows it there. -/
theorem splitOnce_append_of_not_mem {a b : Char} {left : List Char} (distinct : a ≠ b)
    (fresh : b ∉ left) (sep right : List Char) :
    splitOnce (a :: b :: sep) (left ++ (a :: b :: sep) ++ right) = some (left, right) := by
  induction left with
  | nil => simp [splitOnce]
  | cons c left ih =>
      rw [List.mem_cons, not_or] at fresh
      have later :
          (a :: b :: sep).isPrefixOf (c :: (left ++ (a :: b :: sep) ++ right)) = false := by
        cases left with
        | nil => simp [List.isPrefixOf, Ne.symm distinct]
        | cons d left =>
            have other : b ≠ d := fun same => fresh.2 (same ▸ List.mem_cons_self)
            simp [List.isPrefixOf, other]
      simp only [List.cons_append, List.append_assoc] at later ih ⊢
      rw [splitOnce, if_neg (by simp [later]), ih fresh.2]
      rfl

theorem splitAtMark_eq_splitOn (mark : Char) (s : List Char) :
    splitAtMark mark s = s.splitOn mark := by
  induction s with
  | nil => rfl
  | cons c rest ih =>
      rw [splitAtMark, List.splitOn, List.splitOnP_cons_eq_if_modifyHead, ← List.splitOn, ← ih]
      by_cases marked : c = mark
      · simp [marked]
      · rw [if_neg marked, if_neg (by simpa using marked)]
        cases pieces : splitAtMark mark rest with
        | nil => exact (splitAtMark_ne_nil mark rest pieces).elim
        | cons piece pieces => rfl

/-- Lines that are each written with a line feed after it are the lines of the text. -/
theorem lines_flatMap {texts : List (List Char)} (single : ∀ line ∈ texts, '\n' ∉ line)
    (ends : ∀ line ∈ texts, line.getLast? ≠ some '\r') :
    lines (texts.flatMap (· ++ ['\n'])) = texts := by
  have pieces : splitAtMark '\n' (texts.flatMap (· ++ ['\n'])) = texts ++ [[]] := by
    induction texts with
    | nil => rfl
    | cons line texts ih =>
        rw [List.forall_mem_cons] at single ends
        rw [splitAtMark_eq_splitOn] at ih ⊢
        rw [List.flatMap_cons, List.append_assoc, List.singleton_append,
          List.splitOn_append_cons_self, List.splitOn_eq_singleton single.1,
          ih single.2 ends.2]
        rfl
  have kept : texts.map dropReturn = texts := by
    refine (List.map_congr_left fun line member => ?_).trans (List.map_id texts)
    exact if_neg (ends line member)
  simp [lines, pieces, kept]

end Counsel.Text
