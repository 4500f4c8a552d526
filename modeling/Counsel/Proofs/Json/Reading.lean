import Counsel.Json.Shape
import Counsel.Proofs.Json.Number

/-!
Reading what was written.

The text of a value is read to its end, wherever a value may stand and with any fuel that is twice
its length (`readDoc_chars`). The parts come first: a quoted text is read back character by
character (`readPieces_quoteChars`), since an escape stands for the character it was written for,
and half a surrogate pair is never written. What is read is the document of the value but for its
numbers (`Value.reread`). Numbers and nesting are the value's own concern (`Value.Legible`).

* `Doc.read_chars`: the text of a value is read to its end.
* `Decoder.parse_toText`: a decoder of texts does with the text of a legible value what it does with
  the value's document.
* `toValue_ofValue`: that document is not refused.
-/

namespace Counsel.Json

/-! ### Quoted texts -/

theorem hexValue?_hexDigit (n : Nat) : hexValue? (hexDigit n) = some (n % 16) := by
  have digits : ∀ m < 16, hexValue? (Nat.digitChar m) = some m := by decide
  exact digits (n % 16) (Nat.mod_lt n (by decide))

/-- A unit that is no half of a surrogate pair is a character. -/
theorem joinPieces_unit {n : Nat} (low : n < 0xd800) (pieces : List Piece) :
    joinPieces (.unit n :: pieces) = (joinPieces pieces).map (Char.ofNat n :: ·) := by
  cases pieces with
  | nil => simp [joinPieces, Nat.not_le.mpr low]
  | cons piece pieces =>
      cases piece with
      | char c => simp [joinPieces, Nat.not_le.mpr low]
      | unit m => simp [joinPieces, Nat.not_le.mpr low]; intro h; omega

/-- A short escape is read as the character it stands for. -/
theorem readPieces_short {e c : Char} {s rest : List Char} {pieces : List Piece}
    (short : shortEscape? e = some c) (read : readPieces s = some (pieces, rest)) :
    readPieces ('\\' :: e :: s) = some (.char c :: pieces, rest) := by
  have notUnit : e ≠ 'u' := by
    rintro rfl
    cases short
  rw [readPieces]
  · simp [short, read]
  · intro a b c d rest same
    exact absurd same notUnit

/-- A character as it is written in a quoted text is read as a piece that stands for it. -/
theorem readPieces_escapeChar (c : Char) {s rest : List Char} {pieces : List Piece}
    (read : readPieces s = some (pieces, rest)) :
    ∃ piece, readPieces (escapeChar c ++ s) = some (piece :: pieces, rest) ∧
      ∀ pieces, joinPieces (piece :: pieces) = (joinPieces pieces).map (c :: ·) := by
  have char : ∀ pieces, joinPieces (.char c :: pieces) = (joinPieces pieces).map (c :: ·) :=
    fun _ => rfl
  have short : ∀ e, shortEscape? e = some c → escapeChar c = ['\\', e] →
      ∃ piece, readPieces (escapeChar c ++ s) = some (piece :: pieces, rest) ∧
        ∀ pieces, joinPieces (piece :: pieces) = (joinPieces pieces).map (c :: ·) := by
    intro e escape written
    refine ⟨.char c, ?_, char⟩
    rw [written]
    exact readPieces_short escape read
  by_cases quote : c = '"'
  · subst quote
    exact short '"' rfl rfl
  by_cases slash : c = '\\'
  · subst slash
    exact short '\\' rfl rfl
  by_cases line : c = '\n'
  · subst line
    exact short 'n' rfl rfl
  by_cases ret : c = '\r'
  · subst ret
    exact short 'r' rfl rfl
  by_cases tab : c = '\t'
  · subst tab
    exact short 't' rfl rfl
  by_cases back : c.toNat = 8
  · obtain rfl : c = '\x08' := Char.toNat_inj.mp back
    exact short 'b' rfl rfl
  by_cases feed : c.toNat = 12
  · obtain rfl : c = '\x0c' := Char.toNat_inj.mp feed
    exact short 'f' rfl rfl
  by_cases control : c.toNat < 32
  · have unit : hexUnit? '0' '0' (hexDigit (c.toNat / 16)) (hexDigit c.toNat) = some c.toNat := by
      simp only [hexUnit?, hexValue?_hexDigit]
      simp [hexValue?]
      omega
    refine ⟨.unit c.toNat, ?_, fun pieces => ?_⟩
    · simp [escapeChar, quote, slash, line, ret, tab, back, feed, control, readPieces, unit, read]
    · rw [joinPieces_unit (by omega), Char.ofNat_toNat]
  · refine ⟨.char c, ?_, char⟩
    have plain : escapeChar c = [c] := by
      simp only [escapeChar, quote, slash, line, ret, tab, back, feed, control, if_false]
    rw [plain, List.singleton_append, readPieces]
    · simp [control, slash, read]
    all_goals simp [quote, slash]

theorem readPieces_quoteChars (s : List Char) (rest : List Char) :
    ∃ pieces, readPieces (s.flatMap escapeChar ++ '"' :: rest) = some (pieces, rest) ∧
      joinPieces pieces = some s := by
  induction s with
  | nil => exact ⟨[], rfl, rfl⟩
  | cons c s ih =>
      obtain ⟨pieces, read, joined⟩ := ih
      obtain ⟨piece, first, stands⟩ := readPieces_escapeChar c read
      refine ⟨piece :: pieces, ?_, ?_⟩
      · rw [List.flatMap_cons, List.append_assoc, first]
      · rw [stands, joined]
        rfl

/-- A quoted text is read back. -/
theorem readQuoted_quote (s : String) (rest : List Char) :
    readQuoted (s.toList.flatMap escapeChar ++ '"' :: rest) = some (some s, rest) := by
  obtain ⟨pieces, read, joined⟩ := readPieces_quoteChars s.toList rest
  simp [readQuoted, read, joined]

theorem quote_append (s : String) (rest : List Char) :
    quote s ++ rest = '"' :: (s.toList.flatMap escapeChar ++ '"' :: rest) := by
  simp [quote, quoteChars]

/-! ### Values -/

mutual

/-- The text of a value is read back: its numbers are, and at most so many arrays and objects stand
around one another as there is room for. -/
def Value.Legible (room : Nat) : Value → Prop
  | .number n => n.ReadsBack
  | .array items => 1 < room ∧ LegibleItems (room - 1) items
  | .object members => 1 < room ∧ LegibleMembers (room - 1) members
  | _ => True

/-- Every item is legible. -/
def LegibleItems (room : Nat) : List Value → Prop
  | [] => True
  | v :: rest => v.Legible room ∧ LegibleItems room rest

/-- Every member's value is legible. -/
def LegibleMembers (room : Nat) : List (String × Value) → Prop
  | [] => True
  | (_, v) :: rest => v.Legible room ∧ LegibleMembers room rest

end

section

variable {room : Nat}

@[simp] theorem legible_bool (b : Bool) : (Value.bool b).Legible room := trivial

@[simp] theorem legible_text (s : String) : (Value.text s).Legible room := trivial

end

mutual

/-- What the text of a value is read as: the document of the value, but for its numbers. -/
def Value.reread : Value → Doc
  | .null => .null
  | .bool b => .bool b
  | .number n => n.reread
  | .text s => .text (some s)
  | .array items => .array (rereadItems items) true
  | .object members => .object (rereadMembers members) true

/-- What the texts of items are read as. -/
def rereadItems : List Value → List Doc
  | [] => []
  | v :: rest => v.reread :: rereadItems rest

/-- What the texts of members are read as. -/
def rereadMembers : List (String × Value) → List (Option String × Doc)
  | [] => []
  | (k, v) :: rest => (some k, v.reread) :: rereadMembers rest

end

/-- No document starts with a closing bracket. -/
theorem skipGap_of_read {fuel : Nat} {s rest : List Char} {d : Doc}
    (read : readDoc fuel s = (d, some rest)) (r : List Char) : skipGap s ≠ ']' :: r := by
  intro closing
  cases fuel with
  | zero => simp [readDoc] at read
  | succ fuel =>
      rw [readDoc, closing] at read
      simp [readNumeral, digitsOf] at read

/-! ### Tokens -/

section

variable {fuel : Nat} {s rest : List Char} {d : Doc} {k : String}

/-- What follows an opening bracket is items, unless it is a closing one. -/
theorem readDoc_bracket (inhabited : ∀ r, skipGap s ≠ ']' :: r) :
    readDoc (fuel + 1) ('[' :: s) =
      (.array (readItems fuel s).1 (readItems fuel s).2.isSome, (readItems fuel s).2) := by
  simp only [readDoc, show skipGap ('[' :: s) = '[' :: s from rfl]

theorem readItems_last (read : readDoc fuel s = (d, some (']' :: rest))) :
    readItems (fuel + 1) s = ([d], some rest) := by
  simp [readItems, read, skipGap, isGap]

theorem readItems_comma (read : readDoc fuel s = (d, some (',' :: rest))) :
    readItems (fuel + 1) s = (d :: (readItems fuel rest).1, (readItems fuel rest).2) := by
  simp [readItems, read, skipGap, isGap]

theorem readMembers_last (read : readDoc fuel s = (d, some ('}' :: rest))) :
    readMembers (fuel + 1) (quote k ++ ':' :: s) = ([(some k, d)], some rest) := by
  rw [quote_append, readMembers]
  simp [skipGap, isGap, readQuoted_quote, read]

theorem readMembers_comma (read : readDoc fuel s = (d, some (',' :: rest))) :
    readMembers (fuel + 1) (quote k ++ ':' :: s) =
      ((some k, d) :: (readMembers fuel rest).1, (readMembers fuel rest).2) := by
  rw [quote_append, readMembers]
  simp [skipGap, isGap, readQuoted_quote, read]

end

theorem closes_itemChars (items : List Value) (rest : List Char) :
    Closes (itemChars items ++ rest) := by
  cases items <;> simp [Closes, itemChars]

theorem closes_memberChars (members : List (String × Value)) (rest : List Char) :
    Closes (memberChars members ++ rest) := by
  cases members with
  | nil => simp [Closes, memberChars]
  | cons first members => simp [Closes, memberChars]

mutual

/-- The text of a value is read to its end, wherever a value may stand. -/
theorem readDoc_chars : ∀ (v : Value) {fuel : Nat} {rest}, Closes rest →
    2 * v.chars.length < fuel → readDoc fuel (v.chars ++ rest) = (v.reread, some rest)
  | v, 0, _, _, enough => by omega
  | .null, fuel + 1, rest, _, enough => by
      simp [Value.chars, readDoc, skipGap, isGap, readWord, Value.reread]
  | .bool true, fuel + 1, rest, _, enough => by
      simp [Value.chars, readDoc, skipGap, isGap, readWord, Value.reread]
  | .bool false, fuel + 1, rest, _, enough => by
      simp [Value.chars, readDoc, skipGap, isGap, readWord, Value.reread]
  | .number n, fuel + 1, rest, closes, enough => by
      rw [Value.chars, Value.reread]
      exact readDoc_number n fuel closes
  | .text s, fuel + 1, rest, _, enough => by
      rw [Value.chars, quote_append, readDoc, Value.reread]
      simp [skipGap, isGap, readQuoted_quote]
  | .array [], fuel + 1, rest, _, enough => by
      simp [Value.chars, readDoc, skipGap, isGap, Value.reread, rereadItems]
  | .array (v :: items), fuel + 1, rest, _, enough => by
      simp only [Value.chars, List.length_cons, List.length_append] at enough
      have read : readDoc fuel (v.chars ++ (itemChars items ++ rest)) = _ :=
        readDoc_chars v (closes_itemChars items rest) (by omega)
      have listed : readItems fuel (v.chars ++ (itemChars items ++ rest)) = _ :=
        readItems_chars v items (by omega)
      rw [Value.chars, List.cons_append, List.append_assoc,
        readDoc_bracket (skipGap_of_read read), listed, Value.reread, rereadItems]
      rfl
  | .object [], fuel + 1, rest, _, enough => by
      simp [Value.chars, readDoc, skipGap, isGap, Value.reread, rereadMembers]
  | .object ((k, v) :: members), fuel + 1, rest, _, enough => by
      simp only [Value.chars, List.length_cons, List.length_append] at enough
      have listed :
          readMembers fuel (quote k ++ ':' :: (v.chars ++ (memberChars members ++ rest))) = _ :=
        readMembers_chars k v members (by omega)
      rw [quote_append] at listed
      rw [Value.chars, List.cons_append, List.append_assoc, quote_append, List.cons_append,
        List.append_assoc, readDoc]
      simp [skipGap, isGap, listed, Value.reread, rereadMembers]
  termination_by v => sizeOf v

theorem readItems_chars : ∀ (v : Value) (items : List Value) {fuel : Nat} {rest},
    2 * (v.chars.length + (itemChars items).length) < fuel →
    readItems fuel (v.chars ++ (itemChars items ++ rest)) =
      (v.reread :: rereadItems items, some rest)
  | v, items, 0, rest, enough => by omega
  | v, [], fuel + 1, rest, enough => by
      simp only [itemChars, List.length_singleton] at enough
      exact readItems_last (readDoc_chars v (closes_itemChars [] rest) (by omega))
  | v, w :: items, fuel + 1, rest, enough => by
      simp only [itemChars, List.length_cons, List.length_append] at enough
      have read : readDoc fuel (v.chars ++ (itemChars (w :: items) ++ rest)) = _ :=
        readDoc_chars v (closes_itemChars (w :: items) rest) (by omega)
      have others : readItems fuel (w.chars ++ (itemChars items ++ rest)) = _ :=
        readItems_chars w items (by omega)
      simp only [itemChars, List.cons_append, List.append_assoc] at read ⊢
      rw [readItems_comma read, others, rereadItems]
  termination_by v items => sizeOf v + sizeOf items

theorem readMembers_chars : ∀ (k : String) (v : Value) (members : List (String × Value))
    {fuel : Nat} {rest}, 2 * (v.chars.length + (memberChars members).length) < fuel →
    readMembers fuel (quote k ++ ':' :: (v.chars ++ (memberChars members ++ rest))) =
      ((some k, v.reread) :: rereadMembers members, some rest)
  | k, v, members, 0, rest, enough => by omega
  | k, v, [], fuel + 1, rest, enough => by
      simp only [memberChars, List.length_singleton] at enough
      exact readMembers_last (readDoc_chars v (closes_memberChars [] rest) (by omega))
  | k, v, (k', w) :: members, fuel + 1, rest, enough => by
      simp only [memberChars, List.length_cons, List.length_append] at enough
      have read : readDoc fuel (v.chars ++ (memberChars ((k', w) :: members) ++ rest)) = _ :=
        readDoc_chars v (closes_memberChars ((k', w) :: members) rest) (by omega)
      have others :
          readMembers fuel (quote k' ++ ':' :: (w.chars ++ (memberChars members ++ rest))) = _ :=
        readMembers_chars k' w members (by omega)
      simp only [memberChars, List.cons_append, List.append_assoc] at read ⊢
      rw [readMembers_comma read, others, rereadMembers]
  termination_by _ v members => sizeOf v + sizeOf members

end

/-- The text of a value is read to its end. -/
theorem Doc.read_chars (v : Value) : Doc.read v.chars = (v.reread, some []) := by
  have read : readDoc (2 * v.chars.length + 2) (v.chars ++ []) = _ :=
    readDoc_chars v (by simp [Closes]) (by omega)
  rwa [List.append_nil] at read

mutual

/-- The text of a legible value is read as the document of the value. -/
theorem reread_eq : ∀ {v : Value} {room : Nat}, v.Legible room → v.reread = .ofValue v
  | .null, _, _ => rfl
  | .bool _, _, _ => rfl
  | .number _, _, legible => Number.readsBack_iff.mp legible
  | .text _, _, _ => rfl
  | .array items, room, legible => by
      rw [Value.Legible] at legible
      rw [Value.reread, Doc.ofValue, rereadItems_eq legible.2]
  | .object members, room, legible => by
      rw [Value.Legible] at legible
      rw [Value.reread, Doc.ofValue, rereadMembers_eq legible.2]

theorem rereadItems_eq : ∀ {items : List Value} {room : Nat}, LegibleItems room items →
    rereadItems items = docItems items
  | [], _, _ => rfl
  | v :: items, room, legible => by
      rw [LegibleItems] at legible
      rw [rereadItems, docItems, reread_eq legible.1, rereadItems_eq legible.2]

theorem rereadMembers_eq : ∀ {members : List (String × Value)} {room : Nat},
    LegibleMembers room members → rereadMembers members = docMembers members
  | [], _, _ => rfl
  | (k, v) :: members, room, legible => by
      rw [LegibleMembers] at legible
      rw [rereadMembers, docMembers, reread_eq legible.1, rereadMembers_eq legible.2]

end

/-- A text is decoded as the document of its value is. -/
theorem Decoder.parse_toText {α : Type} {decode : Decoder α} {v : Value} {room : Nat}
    (legible : v.Legible room) : decode.parse v.toText = decode (.ofValue v) := by
  rw [parse, Value.toText, String.toList_ofList, Doc.read_chars, reread_eq legible]
  cases decoded : decode (.ofValue v) with
  | ok a => simp only [decoded]; rfl
  | error e => simp only [decoded]; rfl

theorem Decoder.parseStart_toText {α : Type} {decode : Decoder α} {v : Value} {room : Nat}
    (legible : v.Legible room) : decode.parseStart v.toText = decode (.ofValue v) := by
  rw [parseStart, Value.toText, String.toList_ofList, Doc.read_chars, reread_eq legible]

/-! ### Documents of values -/

theorem bind_eq_ok_iff {α β ε : Type} {x : Except ε α} {f : α → Except ε β} {b : β} :
    x >>= f = .ok b ↔ ∃ a, x = .ok a ∧ f a = .ok b := by
  cases x with
  | error e => simp [bind, Except.bind]
  | ok a => simp [bind, Except.bind]

theorem Doc.ofValue_eq_text_iff {v : Value} {s : String} :
    Doc.ofValue v = .text (some s) ↔ v = .text s := by
  constructor
  · intro written
    cases v with
    | text t =>
        cases written
        rfl
    | _ => cases written
  · rintro rfl
    rfl

mutual

/-- Nothing is missing from the document of a value. -/
@[simp] theorem whole_ofValue : ∀ v : Value, (Doc.ofValue v).whole = true
  | .null => rfl
  | .bool _ => rfl
  | .number _ => rfl
  | .text _ => rfl
  | .array items => by rw [Doc.ofValue, Doc.whole, wholeItems_docItems, Bool.and_self]
  | .object members => by rw [Doc.ofValue, Doc.whole, wholeMembers_docMembers, Bool.and_self]

theorem wholeItems_docItems : ∀ items, wholeItems (docItems items) = true
  | [] => rfl
  | v :: items => by
      rw [docItems, wholeItems, whole_ofValue, wholeItems_docItems, Bool.and_self]

theorem wholeMembers_docMembers : ∀ members, wholeMembers (docMembers members) = true
  | [] => rfl
  | (_, v) :: members => by
      rw [docMembers, wholeMembers, whole_ofValue, wholeMembers_docMembers, Bool.and_self]

end

mutual

/-- The document of a legible value is one of a value. -/
theorem toValue_ofValue : ∀ {v : Value} {room : Nat}, v.Legible room →
    ∃ u, (Doc.ofValue v).toValue room = .ok u
  | .null, _, _ => ⟨_, rfl⟩
  | .bool _, _, _ => ⟨_, rfl⟩
  | .number _, _, _ => ⟨_, rfl⟩
  | .text _, _, _ => ⟨_, rfl⟩
  | .array items, room, legible => by
      rw [Value.Legible] at legible
      obtain ⟨us, values⟩ := itemValues_docItems legible.2
      refine ⟨.array us, ?_⟩
      rw [Doc.ofValue, Doc.toValue, if_neg (by omega), values]
      rfl
  | .object members, room, legible => by
      rw [Value.Legible] at legible
      obtain ⟨us, values⟩ := memberValues_docMembers legible.2
      refine ⟨.ofMembers us, ?_⟩
      rw [Doc.ofValue, Doc.toValue, if_neg (by omega), values]
      rfl

theorem itemValues_docItems : ∀ {items : List Value} {room : Nat}, LegibleItems room items →
    ∃ us, itemValues room (docItems items) = .ok us
  | [], _, _ => ⟨[], rfl⟩
  | v :: items, room, legible => by
      rw [LegibleItems] at legible
      obtain ⟨u, value⟩ := toValue_ofValue legible.1
      obtain ⟨us, values⟩ := itemValues_docItems legible.2
      refine ⟨u :: us, ?_⟩
      rw [docItems, itemValues, value, values]
      rfl

theorem memberValues_docMembers : ∀ {members : List (String × Value)} {room : Nat},
    LegibleMembers room members → ∃ us, memberValues room (docMembers members) = .ok us
  | [], _, _ => ⟨[], rfl⟩
  | (k, v) :: members, room, legible => by
      rw [LegibleMembers] at legible
      obtain ⟨u, value⟩ := toValue_ofValue legible.1
      obtain ⟨us, values⟩ := memberValues_docMembers legible.2
      refine ⟨(k, u) :: us, ?_⟩
      rw [docMembers, memberValues, value, values]
      rfl

end

end Counsel.Json
