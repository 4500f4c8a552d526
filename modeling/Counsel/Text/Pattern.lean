import Counsel.Text.Blank

/-!
Patterns: regular expressions whose groups capture what they match.

`Pattern.ways` lists the ways in which a pattern matches the beginning of a text, the preferred ones
first: the left one of two alternatives, and the longest of a repetition. `Pattern.captures?` is
for the whole text: what the groups hold in the first way that leaves nothing.

Digits in patterns are those of every script, which is more than a numeral may be made of.
-/

namespace Counsel.Text

/-! ### Digits -/

/-- The zeros of the scripts of Unicode 16 that have decimal digits. The other nine digits of a
script follow its zero. -/
def zeros : List Nat :=
  [0x30, 0x660, 0x6f0, 0x7c0, 0x966, 0x9e6, 0xa66, 0xae6, 0xb66, 0xbe6, 0xc66, 0xce6, 0xd66, 0xde6,
   0xe50, 0xed0, 0xf20, 0x1040, 0x1090, 0x17e0, 0x1810, 0x1946, 0x19d0, 0x1a80, 0x1a90, 0x1b50,
   0x1bb0, 0x1c40, 0x1c50, 0xa620, 0xa8d0, 0xa900, 0xa9d0, 0xa9f0, 0xaa50, 0xabf0, 0xff10, 0x104a0,
   0x10d30, 0x10d40, 0x11066, 0x110f0, 0x11136, 0x111d0, 0x112f0, 0x11450, 0x114d0, 0x11650,
   0x116c0, 0x116d0, 0x116da, 0x11730, 0x118e0, 0x11950, 0x11bf0, 0x11c50, 0x11d50, 0x11da0,
   0x11f50, 0x16130, 0x16a60, 0x16ac0, 0x16b50, 0x16d70, 0x1ccf0, 0x1d7ce, 0x1d7d8, 0x1d7e2,
   0x1d7ec, 0x1d7f6, 0x1e140, 0x1e2f0, 0x1e4f0, 0x1e5f1, 0x1e950, 0x1fbf0]

/-- Whether a character is a decimal digit of some script. -/
def isDecimal (c : Char) : Bool := zeros.any fun z => z ≤ c.toNat && c.toNat < z + 10

theorem isDigit_iff {c : Char} : c.isDigit = true ↔ 0x30 ≤ c.toNat ∧ c.toNat ≤ 0x39 := by
  simp only [Char.isDigit, Bool.and_eq_true, decide_eq_true_eq, UInt32.le_iff_toNat_le]
  rfl

/-- Among ASCII characters the decimal digits are the usual ones: all other scripts lie beyond. -/
theorem isDigit_of_isDecimal {c : Char} (decimal : isDecimal c = true) (ascii : c.toNat < 128) :
    c.isDigit = true := by
  obtain ⟨z, script, within⟩ := List.any_eq_true.mp decimal
  have latin : ∀ z ∈ zeros, z = 0x30 ∨ 128 ≤ z := by decide
  simp only [Bool.and_eq_true, decide_eq_true_eq] at within
  rw [isDigit_iff]
  rcases latin z script with rfl | beyond <;> omega

theorem isDecimal_of_isDigit {c : Char} (digit : c.isDigit = true) : isDecimal c = true := by
  obtain ⟨low, high⟩ := isDigit_iff.mp digit
  refine List.any_eq_true.mpr ⟨0x30, List.mem_cons_self, ?_⟩
  simp only [Bool.and_eq_true, decide_eq_true_eq]
  exact ⟨low, Nat.lt_succ_of_le high⟩

/-! ### Patterns -/

/-- A regular expression. -/
inductive Pattern where
  | empty
  /-- One character of a class. -/
  | one (kind : Char → Bool)
  /-- Any number of characters of a class, as many as possible. -/
  | many (kind : Char → Bool)
  | seq (first next : Pattern)
  /-- One of two, the first where both can be. -/
  | either (first other : Pattern)
  /-- What `inner` matches is captured. -/
  | group (inner : Pattern)

/-- One way to match the beginning of a text: what is matched, what the groups capture of it, and
what is left of the text. -/
structure Way where
  taken : List Char
  groups : List (List Char)
  rest : List Char
  deriving DecidableEq, Repr

namespace Pattern

/-- The ways to take characters of a class from the beginning of a text, the longest first. -/
def runs (kind : Char → Bool) : List Char → List Way
  | [] => [⟨[], [], []⟩]
  | c :: s =>
      (if kind c then (runs kind s).map fun w => { w with taken := c :: w.taken } else []) ++
        [⟨[], [], c :: s⟩]

/-- The ways in which a pattern matches the beginning of a text, the preferred ones first. -/
def ways : Pattern → List Char → List Way
  | .empty, s => [⟨[], [], s⟩]
  | .one _, [] => []
  | .one kind, c :: s => if kind c then [⟨[c], [], s⟩] else []
  | .many kind, s => runs kind s
  | .seq first next, s =>
      (first.ways s).flatMap fun w => (next.ways w.rest).map fun v =>
        ⟨w.taken ++ v.taken, w.groups ++ v.groups, v.rest⟩
  | .either first other, s => first.ways s ++ other.ways s
  | .group inner, s => (inner.ways s).map fun w => { w with groups := w.taken :: w.groups }

/-- What the groups capture where the pattern matches the whole text. -/
def captures? (p : Pattern) (s : List Char) : Option (List (List Char)) :=
  ((p.ways s).find? (·.rest.isEmpty)).map (·.groups)

/-- The pattern of a fixed text. -/
def literal (s : List Char) : Pattern := s.foldr (fun c p => .seq (.one (· = c)) p) .empty

/-- One or more characters of a class. -/
def atLeastOne (kind : Char → Bool) : Pattern := .seq (.one kind) (.many kind)

/-- What `p` matches, or nothing. -/
def perhaps (p : Pattern) : Pattern := .either p .empty

/-- Patterns one after another. -/
def sequence (ps : List Pattern) : Pattern := ps.foldr .seq .empty

/-- One of several fixed texts. -/
def oneOf : List (List Char) → Pattern
  | [] => .one fun _ => false
  | s :: others => .either (.literal s) (oneOf others)

end Pattern
end Counsel.Text
