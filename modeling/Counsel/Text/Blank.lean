/-!
White space, as the Unicode property `White_Space` has it, and what is done with it: trimming a
text, telling a blank one, and cutting a text into words and into lines.

The functions work on lists of characters; those on `String` are the same functions read through
`String.toList`. The small lemmas say what trimming leaves: nothing of a blank text, and never a
blank at an end (`head?_trim`).
-/

namespace Counsel.Text

/-- The characters with the property `White_Space`: the ASCII blanks, U+0085, U+00A0, U+1680,
U+2000 to U+200A, U+2028, U+2029, U+202F, U+205F and U+3000. -/
def isBlank (c : Char) : Bool :=
  let n := c.toNat
  (0x9 ≤ n && n ≤ 0xd) || n == 0x20 || n == 0x85 || n == 0xa0 || n == 0x1680 ||
  (0x2000 ≤ n && n ≤ 0x200a) || n == 0x2028 || n == 0x2029 || n == 0x202f || n == 0x205f ||
  n == 0x3000

/-! ### Trimming -/

/-- The text without the blanks it starts with. -/
def trimStartChars (s : List Char) : List Char := s.dropWhile isBlank

/-- The text without the blanks it ends with. -/
def trimEndChars (s : List Char) : List Char := (s.reverse.dropWhile isBlank).reverse

/-- The text without the blanks at either end. -/
def trimChars (s : List Char) : List Char := trimEndChars (trimStartChars s)

/-- The text without the blanks at either end. -/
def trim (s : String) : String := .ofList (trimChars s.toList)

/-- A text is blank when it holds nothing but blanks, the empty text included. -/
def Blank (s : String) : Prop := ∀ c ∈ s.toList, isBlank c = true

instance (s : String) : Decidable (Blank s) :=
  List.decidableBAll (isBlank · = true) s.toList

theorem trimStartChars_eq_nil {s : List Char} :
    trimStartChars s = [] ↔ ∀ c ∈ s, isBlank c = true := by
  induction s with
  | nil => simp [trimStartChars]
  | cons a rest ih =>
      unfold trimStartChars at ih ⊢
      rw [List.dropWhile_cons]
      split <;> simp_all

theorem trimEndChars_eq_nil {s : List Char} :
    trimEndChars s = [] ↔ ∀ c ∈ s, isBlank c = true := by
  rw [trimEndChars, List.reverse_eq_nil_iff]
  exact trimStartChars_eq_nil.trans (by simp)

/-- What is left after the leading blanks does not start with one. -/
theorem head?_trimStartChars {s : List Char} {c : Char}
    (first : (trimStartChars s).head? = some c) : isBlank c = false := by
  induction s with
  | nil => simp [trimStartChars] at first
  | cons a rest ih =>
      unfold trimStartChars at first ih
      rw [List.dropWhile_cons] at first
      split at first
      · exact ih first
      · simp_all

/-- A text is blank exactly when trimming leaves nothing of it. -/
theorem trim_eq_empty {s : String} : trim s = "" ↔ Blank s := by
  have empty : ("" : String) = .ofList [] := rfl
  rw [trim, empty, String.ofList_inj, trimChars, trimEndChars_eq_nil, Blank]
  constructor
  · intro rest
    rcases left : trimStartChars s.toList with _ | ⟨c, tail⟩
    · exact trimStartChars_eq_nil.mp left
    · have := head?_trimStartChars (s := s.toList) (c := c) (by simp [left])
      have := rest c (by simp [left])
      simp_all
  · intro blank c member
    exact blank c ((List.dropWhile_sublist isBlank).subset member)

/-! ### Cutting -/

/-- The words of a text: its longest runs without blanks, `current` being the run in progress,
read backwards. -/
def wordsFrom (current : List Char) : List Char → List (List Char)
  | [] => if current.isEmpty then [] else [current.reverse]
  | c :: rest =>
      if isBlank c then
        if current.isEmpty then wordsFrom [] rest else current.reverse :: wordsFrom [] rest
      else wordsFrom (c :: current) rest

/-- The words of a text, without the blanks between them. -/
def words (s : List Char) : List (List Char) := wordsFrom [] s

/-- The pieces of a text between occurrences of `mark`; always at least one. -/
def splitAtMark (mark : Char) : List Char → List (List Char)
  | [] => [[]]
  | c :: rest =>
      if c = mark then [] :: splitAtMark mark rest
      else match splitAtMark mark rest with
        | [] => [[c]]
        | piece :: pieces => (c :: piece) :: pieces

/-- A line that a line feed ended, without the carriage return before it. -/
def dropReturn (line : List Char) : List Char :=
  if line.getLast? = some '\r' then line.dropLast else line

/-- The lines of a text. A line feed, or a carriage return with a line feed, ends a line; nothing
after the last one is no line. -/
def lines (s : List Char) : List (List Char) :=
  let pieces := splitAtMark '\n' s
  let last := pieces.getLast?.getD []
  pieces.dropLast.map dropReturn ++ if last.isEmpty then [] else [last]

/-- The text around the first occurrence of `sep`, itself left out; nothing if there is none. -/
def splitOnce (sep : List Char) : List Char → Option (List Char × List Char)
  | [] => if sep.isEmpty then some ([], []) else none
  | c :: rest =>
      if sep.isPrefixOf (c :: rest) then some ([], (c :: rest).drop sep.length)
      else (splitOnce sep rest).map fun (left, right) => (c :: left, right)

/-- Every text has at least one piece. -/
theorem splitAtMark_ne_nil (mark : Char) (s : List Char) : splitAtMark mark s ≠ [] := by
  cases s with
  | nil => simp [splitAtMark]
  | cons c rest =>
      unfold splitAtMark
      split
      · simp
      · split <;> simp

/-- The text without every trailing occurrence of `mark`. -/
def dropTrailing (mark : Char) (s : String) : String :=
  .ofList ((s.toList.reverse.dropWhile (· = mark)).reverse)

/-- The text with spaces before it, so that it has at least `width` characters. -/
def padLeft (width : Nat) (s : String) : String :=
  .ofList (List.replicate (width - s.length) ' ') ++ s

/-- The text with spaces after it, so that it has at least `width` characters. -/
def padRight (width : Nat) (s : String) : String :=
  s ++ .ofList (List.replicate (width - s.length) ' ')

/-- The text with its ASCII capitals made small. -/
def lowerAscii (s : String) : String := .ofList (s.toList.map Char.toLower)

/-- The text with its small ASCII letters made capitals. -/
def upperAscii (s : String) : String := .ofList (s.toList.map Char.toUpper)

end Counsel.Text
