import Counsel.Text.Pattern
import Mathlib.Data.List.Basic

/-!
What patterns match.

`Pattern.Matches` says it without a search: which texts a pattern matches, and what its groups hold
then. The ways of a pattern are exactly the beginnings of a text that it matches (`mem_ways`), so a
pattern captures something of a text exactly where it matches the whole (`matches_of_captures?`,
`exists_captures?`); which of several ways is preferred matters only where the groups may differ.

`cut_unique` tells two ways apart: a text has one longest beginning of a class.
-/

namespace Counsel.Text

/-- A text is cut in one way where a class of characters ends. -/
theorem cut_unique {kind : Char → Bool} {xs ys s t : List Char} (same : xs ++ s = ys ++ t)
    (left : ∀ c ∈ xs, kind c = true) (right : ∀ c ∈ ys, kind c = true)
    (ends : ∀ c ∈ s.head?, kind c = false) (ends' : ∀ c ∈ t.head?, kind c = false) :
    xs = ys ∧ s = t := by
  induction xs generalizing ys with
  | nil =>
      cases ys with
      | nil => exact ⟨rfl, same⟩
      | cons y ys =>
          have first : kind y = false := ends y (by simpa using congrArg List.head? same)
          rw [right y List.mem_cons_self] at first
          cases first
  | cons x xs ih =>
      cases ys with
      | nil =>
          have first : kind x = false := ends' x (by simpa using congrArg List.head? same.symm)
          rw [left x List.mem_cons_self] at first
          cases first
      | cons y ys =>
          obtain ⟨rfl, rest⟩ := List.cons_eq_cons.mp same
          obtain ⟨rfl, rfl⟩ := ih rest (fun c member => left c (List.mem_cons_of_mem _ member))
            fun c member => right c (List.mem_cons_of_mem _ member)
          exact ⟨rfl, rfl⟩

namespace Pattern

/-- A pattern matches a text, and its groups hold something. -/
inductive Matches : Pattern → List Char → List (List Char) → Prop where
  | empty : Matches .empty [] []
  | one {kind : Char → Bool} {c : Char} (is : kind c = true) : Matches (.one kind) [c] []
  | many {kind : Char → Bool} {s : List Char} (each : ∀ c ∈ s, kind c = true) :
      Matches (.many kind) s []
  | seq {p q : Pattern} {s t : List Char} {gs hs : List (List Char)} (first : Matches p s gs)
      (next : Matches q t hs) : Matches (.seq p q) (s ++ t) (gs ++ hs)
  | left {p q : Pattern} {s : List Char} {gs : List (List Char)} (first : Matches p s gs) :
      Matches (.either p q) s gs
  | right {p q : Pattern} {s : List Char} {gs : List (List Char)} (other : Matches q s gs) :
      Matches (.either p q) s gs
  | group {p : Pattern} {s : List Char} {gs : List (List Char)} (inner : Matches p s gs) :
      Matches (.group p) s (s :: gs)

variable {p q : Pattern} {s t : List Char} {gs hs : List (List Char)} {kind : Char → Bool}

/-! ### One constructor at a time -/

@[simp] theorem matches_empty : Matches .empty s gs ↔ s = [] ∧ gs = [] := by
  constructor
  · rintro ⟨⟩
    exact ⟨rfl, rfl⟩
  · rintro ⟨rfl, rfl⟩
    exact .empty

@[simp] theorem matches_one :
    Matches (.one kind) s gs ↔ (∃ c, kind c = true ∧ s = [c]) ∧ gs = [] := by
  constructor
  · intro whole
    cases whole with
    | one is => exact ⟨⟨_, is, rfl⟩, rfl⟩
  · rintro ⟨⟨c, is, rfl⟩, rfl⟩
    exact .one is

@[simp] theorem matches_many :
    Matches (.many kind) s gs ↔ (∀ c ∈ s, kind c = true) ∧ gs = [] := by
  constructor
  · intro whole
    cases whole with
    | many each => exact ⟨each, rfl⟩
  · rintro ⟨each, rfl⟩
    exact .many each

@[simp] theorem matches_seq :
    Matches (.seq p q) s gs ↔
      ∃ s' t' gs' hs', s = s' ++ t' ∧ gs = gs' ++ hs' ∧ Matches p s' gs' ∧ Matches q t' hs' := by
  constructor
  · intro whole
    cases whole with
    | seq first next => exact ⟨_, _, _, _, rfl, rfl, first, next⟩
  · rintro ⟨s', t', gs', hs', rfl, rfl, first, next⟩
    exact .seq first next

@[simp] theorem matches_either :
    Matches (.either p q) s gs ↔ Matches p s gs ∨ Matches q s gs := by
  constructor
  · intro whole
    cases whole with
    | left first => exact Or.inl first
    | right other => exact Or.inr other
  · rintro (first | other)
    · exact .left first
    · exact .right other

@[simp] theorem matches_group :
    Matches (.group p) s gs ↔ ∃ hs, gs = s :: hs ∧ Matches p s hs := by
  constructor
  · intro whole
    cases whole with
    | group inner => exact ⟨_, rfl, inner⟩
  · rintro ⟨hs, rfl, inner⟩
    exact .group inner

/-! ### Combinations -/

@[simp] theorem matches_literal : Matches (.literal t) s gs ↔ s = t ∧ gs = [] := by
  induction t generalizing s gs with
  | nil => exact matches_empty
  | cons c t ih =>
      simp only [literal, List.foldr_cons, matches_seq, matches_one] at ih ⊢
      constructor
      · rintro ⟨_, _, _, _, rfl, rfl, ⟨⟨_, is, rfl⟩, rfl⟩, rest⟩
        obtain ⟨rfl, rfl⟩ := ih.mp rest
        exact ⟨by rw [of_decide_eq_true is]; rfl, rfl⟩
      · rintro ⟨rfl, rfl⟩
        exact ⟨[c], t, [], [], rfl, rfl, ⟨⟨c, by simp, rfl⟩, rfl⟩, ih.mpr ⟨rfl, rfl⟩⟩

@[simp] theorem matches_atLeastOne :
    Matches (.atLeastOne kind) s gs ↔ (s ≠ [] ∧ ∀ c ∈ s, kind c = true) ∧ gs = [] := by
  simp only [atLeastOne, matches_seq, matches_one, matches_many]
  constructor
  · rintro ⟨_, t', _, _, rfl, rfl, ⟨⟨c, is, rfl⟩, rfl⟩, each, rfl⟩
    exact ⟨⟨by simp, List.forall_mem_cons.mpr ⟨is, each⟩⟩, rfl⟩
  · rintro ⟨⟨some, each⟩, rfl⟩
    obtain ⟨c, s, rfl⟩ := List.exists_cons_of_ne_nil some
    obtain ⟨is, each⟩ := List.forall_mem_cons.mp each
    exact ⟨[c], s, [], [], rfl, rfl, ⟨⟨c, is, rfl⟩, rfl⟩, each, rfl⟩

@[simp] theorem matches_oneOf {texts : List (List Char)} :
    Matches (.oneOf texts) s gs ↔ s ∈ texts ∧ gs = [] := by
  induction texts with
  | nil => simp [oneOf]
  | cons text texts ih =>
      rw [oneOf, matches_either, matches_literal, ih, ← or_and_right, List.mem_cons]

/-- A pattern without groups matches just what `P` says. -/
def Plain (p : Pattern) (P : List Char → Prop) : Prop :=
  ∀ s gs, Matches p s gs ↔ P s ∧ gs = []

variable {P : List Char → Prop} {ps : List Pattern}

theorem Plain.perhaps (plain : Plain p P) : Plain (.perhaps p) fun s => P s ∨ s = [] := by
  intro s gs
  rw [Pattern.perhaps, matches_either, plain, matches_empty, or_and_right]

theorem matches_sequence_nil : Matches (.sequence []) s gs ↔ s = [] ∧ gs = [] := matches_empty

theorem matches_nothing : Matches (.sequence []) [] [] := .empty

theorem Plain.matches_sequence (plain : Plain p P) :
    Matches (.sequence (p :: ps)) s gs ↔
      ∃ t u, s = t ++ u ∧ P t ∧ Matches (.sequence ps) u gs := by
  refine matches_seq.trans ⟨?_, ?_⟩
  · rintro ⟨t, u, _, _, rfl, rfl, part, rest⟩
    obtain ⟨first, rfl⟩ := (plain t _).mp part
    exact ⟨t, u, rfl, first, rest⟩
  · rintro ⟨t, u, rfl, first, rest⟩
    exact ⟨t, u, [], gs, rfl, rfl, (plain t _).mpr ⟨first, rfl⟩, rest⟩

theorem Plain.matches_sequence_group (plain : Plain p P) :
    Matches (.sequence (.group p :: ps)) s gs ↔
      ∃ t u hs, s = t ++ u ∧ gs = t :: hs ∧ P t ∧ Matches (.sequence ps) u hs := by
  refine matches_seq.trans ⟨?_, ?_⟩
  · rintro ⟨t, u, _, hs, rfl, rfl, part, rest⟩
    obtain ⟨_, rfl, inner⟩ := matches_group.mp part
    obtain ⟨first, rfl⟩ := (plain t _).mp inner
    exact ⟨t, u, hs, rfl, rfl, first, rest⟩
  · rintro ⟨t, u, hs, rfl, rfl, first, rest⟩
    exact ⟨t, u, [t], hs, rfl, rfl, .group ((plain t _).mpr ⟨first, rfl⟩), rest⟩

theorem plain_literal (t : List Char) : Plain (.literal t) (· = t) :=
  fun _ _ => matches_literal

theorem plain_many (kind : Char → Bool) : Plain (.many kind) fun s => ∀ c ∈ s, kind c = true :=
  fun _ _ => matches_many

theorem plain_atLeastOne (kind : Char → Bool) :
    Plain (.atLeastOne kind) fun s => s ≠ [] ∧ ∀ c ∈ s, kind c = true :=
  fun _ _ => matches_atLeastOne

theorem plain_oneOf (texts : List (List Char)) : Plain (.oneOf texts) (· ∈ texts) :=
  fun _ _ => matches_oneOf

/-! ### The ways of a pattern -/

/-- The ways of a repetition are the beginnings of its class. -/
theorem mem_runs {w : Way} :
    w ∈ runs kind s ↔
      s = w.taken ++ w.rest ∧ (∀ c ∈ w.taken, kind c = true) ∧ w.groups = [] := by
  induction s generalizing w with
  | nil =>
      obtain ⟨taken, groups, rest⟩ := w
      simp only [runs, List.mem_singleton, Way.mk.injEq, List.nil_eq, List.append_eq_nil_iff]
      constructor
      · rintro ⟨rfl, rfl, rfl⟩
        exact ⟨⟨rfl, rfl⟩, by simp, rfl⟩
      · rintro ⟨⟨rfl, rfl⟩, -, rfl⟩
        exact ⟨rfl, rfl, rfl⟩
  | cons c s ih =>
      simp only [runs, List.mem_append, List.mem_singleton]
      constructor
      · rintro (longer | rfl)
        · split at longer
          · rename_i is
            obtain ⟨w, way, rfl⟩ := List.mem_map.mp longer
            obtain ⟨rfl, each, none⟩ := ih.mp way
            exact ⟨rfl, List.forall_mem_cons.mpr ⟨is, each⟩, none⟩
          · cases longer
        · exact ⟨rfl, by simp, rfl⟩
      · obtain ⟨taken, groups, rest⟩ := w
        rintro ⟨cut, each, none⟩
        cases taken with
        | nil =>
            right
            rw [Way.mk.injEq]
            exact ⟨rfl, none, cut.symm⟩
        | cons first taken =>
            left
            obtain ⟨rfl, rfl⟩ := List.cons_eq_cons.mp cut
            obtain ⟨is, each⟩ := List.forall_mem_cons.mp each
            rw [if_pos is]
            exact List.mem_map.mpr ⟨⟨taken, groups, rest⟩, ih.mpr ⟨rfl, each, none⟩, rfl⟩

/-- A pattern's ways are the beginnings of a text that it matches, with what its groups hold. -/
theorem mem_ways {w : Way} :
    w ∈ p.ways s ↔ s = w.taken ++ w.rest ∧ Matches p w.taken w.groups := by
  induction p generalizing s w with
  | empty =>
      obtain ⟨taken, groups, rest⟩ := w
      simp only [ways, List.mem_singleton, Way.mk.injEq, matches_empty]
      constructor
      · rintro ⟨rfl, rfl, rfl⟩
        exact ⟨rfl, rfl, rfl⟩
      · rintro ⟨rfl, rfl, rfl⟩
        exact ⟨rfl, rfl, rfl⟩
  | one kind =>
      simp only [matches_one]
      constructor
      · intro way
        cases s with
        | nil => cases way
        | cons c s =>
            unfold ways at way
            split at way
            · rename_i is
              cases List.mem_singleton.mp way
              exact ⟨rfl, ⟨c, is, rfl⟩, rfl⟩
            · cases way
      · obtain ⟨taken, groups, rest⟩ := w
        rintro ⟨rfl, ⟨c, is, rfl⟩, rfl⟩
        simp [ways, is]
  | many kind => rw [ways, mem_runs, matches_many]
  | seq p q ihp ihq =>
      simp only [ways, List.mem_flatMap, List.mem_map, matches_seq]
      constructor
      · rintro ⟨u, way, v, next, rfl⟩
        obtain ⟨rfl, first⟩ := ihp.mp way
        obtain ⟨cut, second⟩ := ihq.mp next
        exact ⟨by rw [cut, List.append_assoc], _, _, _, _, rfl, rfl, first, second⟩
      · obtain ⟨taken, groups, rest⟩ := w
        rintro ⟨rfl, s', t', gs', hs', rfl, rfl, first, second⟩
        exact ⟨⟨s', gs', t' ++ rest⟩, ihp.mpr ⟨List.append_assoc _ _ _, first⟩,
          ⟨t', hs', rest⟩, ihq.mpr ⟨rfl, second⟩, rfl⟩
  | either p q ihp ihq => rw [ways, List.mem_append, ihp, ihq, ← and_or_left, matches_either]
  | group p ih =>
      simp only [ways, List.mem_map, matches_group]
      constructor
      · rintro ⟨u, way, rfl⟩
        obtain ⟨cut, inner⟩ := ih.mp way
        exact ⟨cut, _, rfl, inner⟩
      · obtain ⟨taken, groups, rest⟩ := w
        rintro ⟨cut, hs, captured, inner⟩
        obtain rfl : groups = taken :: hs := captured
        exact ⟨⟨taken, hs, rest⟩, ih.mpr ⟨cut, inner⟩, rfl⟩

/-- What is captured of a text comes from a match of the whole. -/
theorem matches_of_captures? (captured : p.captures? s = some gs) : Matches p s gs := by
  obtain ⟨w, found, rfl⟩ := Option.map_eq_some_iff.mp captured
  obtain ⟨cut, whole⟩ := mem_ways.mp (List.mem_of_find?_eq_some found)
  have nothing : w.rest = [] := by simpa using List.find?_some found
  rwa [cut, nothing, List.append_nil]

/-- Where a pattern matches the whole text, something is captured. -/
theorem exists_captures? (whole : Matches p s gs) : ∃ hs, p.captures? s = some hs := by
  have way : ⟨s, gs, []⟩ ∈ p.ways s := mem_ways.mpr ⟨(List.append_nil s).symm, whole⟩
  have found : ((p.ways s).find? (·.rest.isEmpty)).isSome = true :=
    List.find?_isSome.mpr ⟨_, way, rfl⟩
  obtain ⟨w, first⟩ := Option.isSome_iff_exists.mp found
  exact ⟨w.groups, by rw [captures?, first]; rfl⟩

end Pattern
end Counsel.Text
