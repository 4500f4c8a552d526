import Counsel.Proofs.Json.Reordering

/-!
What is denoted by the text of a value that a text denoted.

A value that a text denotes has the members of its objects in order, each key once, and is not
nested too deep (`canonical_of_toValue`, by induction along the document). So its own text denotes
it again, unless one of its numbers is read as something else.

* `parse_toText_iff`: the text of such a value denotes it exactly if each of its numbers is denoted
  by its own text.
* `parse_reordered`: a value is denoted by its text with the members of its objects in any order.
-/

namespace Counsel.Json

/-! ### Numbers -/

mutual

/-- The numbers in a value. -/
def Value.numbers : Value → List Number
  | .number n => [n]
  | .array items => itemNumbers items
  | .object members => memberNumbers members
  | _ => []

/-- The numbers in items. -/
def itemNumbers : List Value → List Number
  | [] => []
  | v :: rest => v.numbers ++ itemNumbers rest

/-- The numbers in members. -/
def memberNumbers : List (String × Value) → List Number
  | [] => []
  | (_, v) :: rest => v.numbers ++ memberNumbers rest

end

/-! ### Objects -/

theorem canonicalItems_iff {items : List Value} :
    CanonicalItems items ↔ ∀ v ∈ items, v.Canonical := by
  induction items with
  | nil => simp [CanonicalItems]
  | cons v items ih => rw [CanonicalItems, List.forall_mem_cons, ih]

theorem canonicalMembers_iff {members : List (String × Value)} :
    CanonicalMembers members ↔ ∀ m ∈ members, m.2.Canonical := by
  induction members with
  | nil => simp [CanonicalMembers]
  | cons m members ih => rw [CanonicalMembers, List.forall_mem_cons, ih]

/-- An object is made of members as a dictionary is. -/
theorem Value.ofMembers_eq (members : List (String × Value)) :
    Value.ofMembers members = .object (Dict.ofList members).entries := by
  rw [Value.ofMembers, Dict.entries_ofList]

/-- Members that are in order make an object as they stand. -/
theorem Value.ofMembers_of_sorted {members : List (String × Value)}
    (sorted : members.Pairwise (fun a b => a.1 < b.1)) :
    Value.ofMembers members = .object members := by
  have made : Dict.ofList members = ⟨members, sorted⟩ := Dict.ofList_of_perm (.refl members)
  rw [Value.ofMembers_eq, made]

theorem canonical_ofMembers {members : List (String × Value)}
    (each : ∀ m ∈ members, m.2.Canonical) : (Value.ofMembers members).Canonical := by
  rw [Value.ofMembers_eq]
  exact ⟨(Dict.ofList members).sorted,
    canonicalMembers_iff.mpr fun m member => each m (Dict.mem_of_mem_ofList member)⟩

/-- What is under a key of an object made of members with a key each is what stood there. -/
theorem get?_ofMembers (members : List (String × Value)) (distinct : (members.map Prod.fst).Nodup)
    (key : String) : (Value.ofMembers members).get? key = members.lookup key := by
  have kept := Dict.perm_made distinct
  exact Dict.lookup_perm kept ((kept.map Prod.fst).nodup_iff.mpr distinct) key

/-! ### Values of documents -/

mutual

/-- At most so many arrays and objects stand around one another as there is room for. -/
def Value.Fits (room : Nat) : Value → Prop
  | .array items => 1 < room ∧ FitsItems (room - 1) items
  | .object members => 1 < room ∧ FitsMembers (room - 1) members
  | _ => True

/-- Every item fits. -/
def FitsItems (room : Nat) : List Value → Prop
  | [] => True
  | v :: rest => v.Fits room ∧ FitsItems room rest

/-- Every member's value fits. -/
def FitsMembers (room : Nat) : List (String × Value) → Prop
  | [] => True
  | (_, v) :: rest => v.Fits room ∧ FitsMembers room rest

end

theorem fitsMembers_iff {room : Nat} {members : List (String × Value)} :
    FitsMembers room members ↔ ∀ m ∈ members, m.2.Fits room := by
  induction members with
  | nil => simp [FitsMembers]
  | cons m members ih => rw [FitsMembers, List.forall_mem_cons, ih]

mutual

/-- What a document denotes has its members in order, and fits the room it was read in. -/
theorem canonical_of_toValue : ∀ {d : Doc} {room : Nat} {v : Value}, d.toValue room = .ok v →
    v.Canonical ∧ v.Fits room
  | .null, _, _, valued => by
      cases valued
      exact ⟨trivial, trivial⟩
  | .bool _, _, _, valued => by
      cases valued
      exact ⟨trivial, trivial⟩
  | .number (some _), _, _, valued => by
      cases valued
      exact ⟨trivial, trivial⟩
  | .number none, _, _, valued => by cases valued
  | .text (some _), _, _, valued => by
      cases valued
      exact ⟨trivial, trivial⟩
  | .text none, _, _, valued => by cases valued
  | .array items closed, room, v, valued => by
      rw [Doc.toValue] at valued
      split at valued
      · cases valued
      · obtain ⟨values, each, made⟩ := bind_eq_ok_iff.mp valued
        split at made
        · cases made
          obtain ⟨ordered, fits⟩ := canonical_of_itemValues each
          exact ⟨ordered, by omega, fits⟩
        · cases made
  | .object members closed, room, v, valued => by
      rw [Doc.toValue] at valued
      split at valued
      · cases valued
      · obtain ⟨values, each, made⟩ := bind_eq_ok_iff.mp valued
        split at made
        · cases made
          have sound := canonical_of_memberValues each
          refine ⟨canonical_ofMembers fun m member => (sound m member).1, ?_⟩
          rw [Value.ofMembers_eq]
          exact ⟨by omega, fitsMembers_iff.mpr fun m member =>
            (sound m (Dict.mem_of_mem_ofList member)).2⟩
        · cases made
  | .broken, _, _, valued => by cases valued

theorem canonical_of_itemValues : ∀ {ds : List Doc} {room : Nat} {vs : List Value},
    itemValues room ds = .ok vs → CanonicalItems vs ∧ FitsItems room vs
  | [], _, _, valued => by
      cases valued
      exact ⟨trivial, trivial⟩
  | d :: ds, room, vs, valued => by
      rw [itemValues] at valued
      obtain ⟨w, first, valued⟩ := bind_eq_ok_iff.mp valued
      obtain ⟨ws, rest, made⟩ := bind_eq_ok_iff.mp valued
      cases made
      have here := canonical_of_toValue first
      have more := canonical_of_itemValues rest
      exact ⟨⟨here.1, more.1⟩, here.2, more.2⟩

theorem canonical_of_memberValues : ∀ {ds : List (Option String × Doc)} {room : Nat}
    {vs : List (String × Value)}, memberValues room ds = .ok vs →
    ∀ m ∈ vs, m.2.Canonical ∧ m.2.Fits room
  | [], _, _, valued => by
      cases valued
      exact nofun
  | (none, d) :: ds, room, vs, valued => by cases valued
  | (some key, d) :: ds, room, vs, valued => by
      rw [memberValues] at valued
      obtain ⟨w, first, valued⟩ := bind_eq_ok_iff.mp valued
      obtain ⟨ws, rest, made⟩ := bind_eq_ok_iff.mp valued
      cases made
      exact List.forall_mem_cons.mpr
        ⟨canonical_of_toValue first, canonical_of_memberValues rest⟩

end

/-! ### Values of texts -/

/-- Only a numeral denotes a number. -/
theorem toValue_eq_number_iff {d : Doc} {room : Nat} {n : Number} :
    d.toValue room = .ok (.number n) ↔ d = .number (some n) := by
  constructor
  · intro valued
    cases d with
    | number value =>
        cases value with
        | none => cases valued
        | some m =>
            cases valued
            rfl
    | text value => cases value <;> cases valued
    | array items closed =>
        rw [Doc.toValue] at valued
        split at valued
        · cases valued
        · obtain ⟨values, -, made⟩ := bind_eq_ok_iff.mp valued
          split at made <;> cases made
    | object members closed =>
        rw [Doc.toValue] at valued
        split at valued
        · cases valued
        · obtain ⟨values, -, made⟩ := bind_eq_ok_iff.mp valued
          split at made <;> cases made
    | _ => cases valued
  · rintro rfl
    rfl

theorem keys_memberValues : ∀ {members values : List (String × Value)} {room : Nat},
    memberValues room (rereadMembers members) = .ok values →
    values.map Prod.fst = members.map Prod.fst
  | [], _, _, valued => by
      cases valued
      rfl
  | (key, v) :: members, values, room, valued => by
      rw [rereadMembers, memberValues] at valued
      obtain ⟨w, -, valued⟩ := bind_eq_ok_iff.mp valued
      obtain ⟨ws, rest, made⟩ := bind_eq_ok_iff.mp valued
      cases made
      rw [List.map_cons, List.map_cons, keys_memberValues rest]

mutual

/-- The text of a value denotes the value exactly if all its numbers are read back. -/
theorem toValue_reread_iff : ∀ {v : Value} {room : Nat}, v.Canonical → v.Fits room →
    (v.reread.toValue room = .ok v ↔ ∀ n ∈ v.numbers, n.ReadsBack)
  | .null, _, _, _ => iff_of_true rfl nofun
  | .bool _, _, _, _ => iff_of_true rfl nofun
  | .text _, _, _, _ => iff_of_true rfl nofun
  | .number n, room, _, _ => by
      rw [Value.numbers, List.forall_mem_singleton, Number.readsBack_iff, Value.reread]
      exact toValue_eq_number_iff
  | .array items, room, canonical, fits => by
      rw [Value.Canonical] at canonical
      rw [Value.Fits] at fits
      have each := itemValues_reread_iff canonical fits.2
      rw [Value.reread, Doc.toValue, if_neg (by omega), bind_eq_ok_iff, Value.numbers, ← each]
      constructor
      · rintro ⟨values, valued, made⟩
        cases made
        exact valued
      · exact fun valued => ⟨items, valued, rfl⟩
  | .object members, room, canonical, fits => by
      rw [Value.Canonical] at canonical
      rw [Value.Fits] at fits
      have each := memberValues_reread_iff canonical.2 fits.2
      rw [Value.reread, Doc.toValue, if_neg (by omega), bind_eq_ok_iff, Value.numbers, ← each]
      constructor
      · rintro ⟨values, valued, made⟩
        have sorted : values.Pairwise (fun a b => a.1 < b.1) := by
          have keys := List.pairwise_map.mpr canonical.1
          rw [← keys_memberValues valued] at keys
          exact List.pairwise_map.mp keys
        simp only [if_true, Value.ofMembers_of_sorted sorted] at made
        cases made
        exact valued
      · intro valued
        refine ⟨members, valued, ?_⟩
        rw [Value.ofMembers_of_sorted canonical.1]
        rfl

theorem itemValues_reread_iff : ∀ {items : List Value} {room : Nat}, CanonicalItems items →
    FitsItems room items →
    (itemValues room (rereadItems items) = .ok items ↔ ∀ n ∈ itemNumbers items, n.ReadsBack)
  | [], _, _, _ => iff_of_true rfl nofun
  | v :: items, room, canonical, fits => by
      rw [CanonicalItems] at canonical
      rw [FitsItems] at fits
      rw [itemNumbers, List.forall_mem_append, ← toValue_reread_iff canonical.1 fits.1,
        ← itemValues_reread_iff canonical.2 fits.2, rereadItems, itemValues, bind_eq_ok_iff]
      constructor
      · rintro ⟨w, first, valued⟩
        obtain ⟨ws, rest, made⟩ := bind_eq_ok_iff.mp valued
        cases made
        exact ⟨first, rest⟩
      · rintro ⟨first, rest⟩
        exact ⟨v, first, bind_eq_ok_iff.mpr ⟨items, rest, rfl⟩⟩

theorem memberValues_reread_iff : ∀ {members : List (String × Value)} {room : Nat},
    CanonicalMembers members → FitsMembers room members →
    (memberValues room (rereadMembers members) = .ok members ↔
      ∀ n ∈ memberNumbers members, n.ReadsBack)
  | [], _, _, _ => iff_of_true rfl nofun
  | (key, v) :: members, room, canonical, fits => by
      rw [CanonicalMembers] at canonical
      rw [FitsMembers] at fits
      rw [memberNumbers, List.forall_mem_append, ← toValue_reread_iff canonical.1 fits.1,
        ← memberValues_reread_iff canonical.2 fits.2, rereadMembers, memberValues, bind_eq_ok_iff]
      constructor
      · rintro ⟨w, first, valued⟩
        obtain ⟨ws, rest, made⟩ := bind_eq_ok_iff.mp valued
        cases made
        exact ⟨first, rest⟩
      · rintro ⟨first, rest⟩
        exact ⟨v, first, bind_eq_ok_iff.mpr ⟨members, rest, rfl⟩⟩

end

/-- A whole text denotes what its document denotes, if nothing follows it. -/
theorem parse_eq_ok_iff {s : String} {v : Value} : Value.parse s = .ok v ↔
    (Doc.read s.toList).1.toValue nestingRoom = .ok v ∧ endsThere (Doc.read s.toList).2 = true := by
  rw [Value.parse, bind_eq_ok_iff]
  constructor
  · rintro ⟨w, valued, made⟩
    split at made
    · cases made
      exact ⟨valued, ‹_›⟩
    · cases made
  · rintro ⟨valued, ends⟩
    exact ⟨v, valued, if_pos ends⟩

/-- The text of a value denotes what it is read as. -/
theorem parse_toText (v : Value) : Value.parse v.toText = v.reread.toValue nestingRoom := by
  rw [Value.parse, Value.toText, String.toList_ofList, Doc.read_chars]
  cases denoted : v.reread.toValue nestingRoom with
  | error fault => simp only [denoted]; rfl
  | ok w => simp only [denoted]; rfl

/-- A number is read back exactly if its text denotes it. -/
theorem Number.readsBack_iff_parse {n : Number} :
    n.ReadsBack ↔ Value.parse n.text = .ok (.number n) := by
  have text : n.text = (Value.number n).toText := by
    rw [Value.toText, Value.chars, String.ofList_toList]
  rw [text, parse_toText, Value.reread, toValue_eq_number_iff, Number.readsBack_iff]

/-- What a text denotes is denoted by its own text as well, exactly if each number in it is. -/
theorem parse_toText_iff {s : String} {v : Value} (parsed : Value.parse s = .ok v) :
    Value.parse v.toText = .ok v ↔ ∀ n ∈ v.numbers, Value.parse n.text = .ok (.number n) := by
  obtain ⟨canonical, fits⟩ := canonical_of_toValue (parse_eq_ok_iff.mp parsed).1
  rw [parse_toText, toValue_reread_iff canonical fits]
  simp only [Number.readsBack_iff_parse]

/-! ### Members in another order -/

theorem memberValues_docMembers_eq {room : Nat} {ks es : List (String × Value)}
    (each : List.Forall₂ (fun k e => k.1 = e.1 ∧ (Doc.ofValue k.2).toValue room = .ok e.2) ks es) :
    memberValues room (docMembers ks) = .ok es := by
  induction each with
  | nil => rfl
  | @cons k e ks es read _ ih =>
      obtain ⟨key, v⟩ := k
      obtain ⟨rfl, value⟩ := read
      rw [docMembers, memberValues, value, ih]
      rfl

mutual

/-- A value is denoted by its document, with the members of its objects in any order. -/
theorem toValue_reordered : ∀ {v w : Value} {room : Nat}, v.Reordered w → v.Canonical →
    v.Legible room → (Doc.ofValue w).toValue room = .ok v
  | _, _, _, .null, _, _ => rfl
  | _, _, _, .bool _, _, _ => rfl
  | _, _, _, .number _, _, _ => rfl
  | _, _, _, .text _, _, _ => rfl
  | .array vs, .array ws, room, .array each, canonical, legible => by
      rw [Value.Canonical] at canonical
      rw [Value.Legible] at legible
      rw [Doc.ofValue, Doc.toValue, if_neg (by omega),
        itemValues_reordered each canonical legible.2]
      rfl
  | .object ms, .object ks, room, .object each order, canonical, legible => by
      rw [Value.Canonical] at canonical
      rw [Value.Legible] at legible
      have read := members_reordered each canonical.2 legible.2
      -- The members are met in the order of the text.
      obtain ⟨es, inOrder, rearranged⟩ := List.perm_comp_forall₂ order.symm read
      have made : Dict.ofList es = ⟨ms, canonical.1⟩ := Dict.ofList_of_perm rearranged
      rw [Doc.ofValue, Doc.toValue, if_neg (by omega), memberValues_docMembers_eq inOrder]
      show Except.ok (Value.ofMembers es) = _
      rw [Value.ofMembers_eq, made]
  termination_by v => sizeOf v

theorem itemValues_reordered : ∀ {vs ws : List Value} {room : Nat},
    List.Forall₂ Value.Reordered vs ws → CanonicalItems vs → LegibleItems room vs →
    itemValues room (docItems ws) = .ok vs
  | [], [], _, _, _, _ => rfl
  | v :: vs, w :: ws, room, .cons same each, canonical, legible => by
      rw [CanonicalItems] at canonical
      rw [LegibleItems] at legible
      rw [docItems, itemValues, toValue_reordered same canonical.1 legible.1,
        itemValues_reordered each canonical.2 legible.2]
      rfl
  termination_by vs => sizeOf vs

theorem members_reordered : ∀ {ms ns : List (String × Value)} {room : Nat},
    List.Forall₂ ReorderedMember ms ns → CanonicalMembers ms → LegibleMembers room ms →
    List.Forall₂ (fun n m => n.1 = m.1 ∧ (Doc.ofValue n.2).toValue room = .ok m.2) ns ms
  | [], [], _, _, _, _ => .nil
  | (_, v) :: ms, (_, w) :: ns, room, .cons same each, canonical, legible => by
      rw [CanonicalMembers] at canonical
      rw [LegibleMembers] at legible
      exact .cons ⟨same.key.symm, toValue_reordered same.value canonical.1 legible.1⟩
        (members_reordered each canonical.2 legible.2)
  termination_by ms => sizeOf ms

end

/-- A text denotes a value that it was written for, in whatever order the members are written. -/
theorem parse_reordered {v w : Value} (same : v.Reordered w) (canonical : v.Canonical)
    (legible : v.Legible nestingRoom) : Value.parse w.toText = .ok v := by
  rw [parse_toText, reread_eq (legible.reordered same), toValue_reordered same canonical legible]

end Counsel.Json
