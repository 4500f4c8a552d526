import Counsel.Proofs.Json.Reading
import Mathlib.Data.List.Perm.Basic

/-!
Values up to the order of their members.

The text of a value lists the members of an object in one order; a writer may choose another, and
means the same. `Value.Reordered` relates two values that differ in nothing else, however deep. A
record written with members in any order still has each of them, and under no key two
(`Arranged`), which is all that a reader of records looks at.
-/

namespace Counsel.Json

mutual

/-- The same value, with the members of its objects in any order. -/
inductive Value.Reordered : Value → Value → Prop
  | null : Value.Reordered .null .null
  | bool (b : Bool) : Value.Reordered (.bool b) (.bool b)
  | number (n : Number) : Value.Reordered (.number n) (.number n)
  | text (s : String) : Value.Reordered (.text s) (.text s)
  | array {vs ws : List Value} (each : List.Forall₂ Value.Reordered vs ws) :
      Value.Reordered (.array vs) (.array ws)
  | object {ms ns ks : List (String × Value)} (each : List.Forall₂ ReorderedMember ms ns)
      (order : ns.Perm ks) : Value.Reordered (.object ms) (.object ks)

/-- The same member, with the members inside its value in any order. -/
inductive ReorderedMember : String × Value → String × Value → Prop
  | under (key : String) {v w : Value} (value : v.Reordered w) :
      ReorderedMember (key, v) (key, w)

end

theorem ReorderedMember.key : ∀ {m n}, ReorderedMember m n → m.1 = n.1
  | _, _, .under _ _ => rfl

theorem ReorderedMember.value : ∀ {m n}, ReorderedMember m n → m.2.Reordered n.2
  | _, _, .under _ value => value

/-! ### Legible values -/

theorem legibleItems_iff {room : Nat} {items : List Value} :
    LegibleItems room items ↔ ∀ v ∈ items, v.Legible room := by
  induction items with
  | nil => simp [LegibleItems]
  | cons v items ih => rw [LegibleItems, List.forall_mem_cons, ih]

theorem legibleMembers_iff {room : Nat} {members : List (String × Value)} :
    LegibleMembers room members ↔ ∀ m ∈ members, m.2.Legible room := by
  induction members with
  | nil => simp [LegibleMembers]
  | cons m members ih => rw [LegibleMembers, List.forall_mem_cons, ih]

theorem legible_list {α : Type} {encode : α → Value} {as : List α} {room : Nat}
    (enough : 1 < room) (each : ∀ a ∈ as, (encode a).Legible (room - 1)) :
    (Value.array (as.map encode)).Legible room := by
  refine ⟨enough, legibleItems_iff.mpr ?_⟩
  rwa [List.forall_mem_map]

theorem legible_dict {α : Type} {encode : α → Value} {entries : Dict α} {room : Nat}
    (enough : 1 < room) (each : ∀ e ∈ entries.entries, (encode e.2).Legible (room - 1)) :
    (Value.object (entries.entries.map fun e => (e.1, encode e.2))).Legible room := by
  refine ⟨enough, legibleMembers_iff.mpr ?_⟩
  rwa [List.forall_mem_map]

theorem legible_ofMembers {members : List (String × Value)} {room : Nat} (enough : 1 < room)
    (distinct : (members.map Prod.fst).Nodup) (each : ∀ m ∈ members, m.2.Legible (room - 1)) :
    (Value.ofMembers members).Legible room := by
  have kept := Dict.perm_made distinct
  exact ⟨enough, legibleMembers_iff.mpr fun m member => each m (kept.mem_iff.mp member)⟩

mutual

/-- A value stays legible with its members in another order. -/
theorem Value.Legible.reordered : ∀ {v w : Value} {room : Nat}, v.Reordered w →
    v.Legible room → w.Legible room
  | _, _, _, .null, legible => legible
  | _, _, _, .bool _, legible => legible
  | _, _, _, .number _, legible => legible
  | _, _, _, .text _, legible => legible
  | .array vs, .array ws, room, .array each, legible => by
      rw [Value.Legible] at legible ⊢
      exact ⟨legible.1, LegibleItems.reordered each legible.2⟩
  | .object ms, .object ks, room, .object each order, legible => by
      rw [Value.Legible] at legible ⊢
      have listed := legibleMembers_iff.mp (LegibleMembers.reordered each legible.2)
      exact ⟨legible.1, legibleMembers_iff.mpr fun m member => listed m (order.mem_iff.mpr member)⟩
  termination_by v => sizeOf v

theorem LegibleItems.reordered : ∀ {vs ws : List Value} {room : Nat},
    List.Forall₂ Value.Reordered vs ws → LegibleItems room vs → LegibleItems room ws
  | [], [], _, _, legible => legible
  | v :: vs, w :: ws, room, .cons same each, legible => by
      rw [LegibleItems] at legible ⊢
      exact ⟨legible.1.reordered same, LegibleItems.reordered each legible.2⟩
  termination_by vs => sizeOf vs

theorem LegibleMembers.reordered : ∀ {ms ns : List (String × Value)} {room : Nat},
    List.Forall₂ ReorderedMember ms ns → LegibleMembers room ms → LegibleMembers room ns
  | [], [], _, _, legible => legible
  | (_, v) :: ms, (_, w) :: ns, room, .cons same each, legible => by
      rw [LegibleMembers] at legible ⊢
      exact ⟨legible.1.reordered same.value, LegibleMembers.reordered each legible.2⟩
  termination_by ms => sizeOf ms

end

/-! ### The value itself -/

mutual

/-- A value is one of its own reorderings. -/
theorem Value.Reordered.refl : ∀ v : Value, v.Reordered v
  | .null => .null
  | .bool b => .bool b
  | .number n => .number n
  | .text s => .text s
  | .array items => .array (reordered_items items)
  | .object members => .object (reordered_members members) (.refl members)

theorem reordered_items : ∀ items : List Value, List.Forall₂ Value.Reordered items items
  | [] => .nil
  | v :: items => .cons (Value.Reordered.refl v) (reordered_items items)

theorem reordered_members : ∀ members : List (String × Value),
    List.Forall₂ ReorderedMember members members
  | [] => .nil
  | (k, v) :: members => .cons (.under k (Value.Reordered.refl v)) (reordered_members members)

end

/-! ### Objects -/

/-- Members with a key each, and under each key a value that is there in some order. -/
structure Arranged (ms ks : List (String × Value)) : Prop where
  distinct : (ks.map Prod.fst).Nodup
  lookup : ∀ key, Option.Rel Value.Reordered (ms.lookup key) (ks.lookup key)

theorem lookup_reordered {ms ns : List (String × Value)}
    (each : List.Forall₂ ReorderedMember ms ns) (key : String) :
    Option.Rel Value.Reordered (ms.lookup key) (ns.lookup key) := by
  induction each with
  | nil => exact .none
  | cons same _ ih =>
      rw [Dict.lookup_cons, Dict.lookup_cons, same.key]
      split
      · exact .some same.value
      · exact ih

theorem keys_reordered {ms ns : List (String × Value)}
    (each : List.Forall₂ ReorderedMember ms ns) : ms.map Prod.fst = ns.map Prod.fst := by
  induction each with
  | nil => rfl
  | cons same _ ih => rw [List.map_cons, List.map_cons, same.key, ih]

/-- Members in some order, and with their values in some order, are arranged. -/
theorem Arranged.of_reordered {ms ns ks : List (String × Value)}
    (distinct : (ms.map Prod.fst).Nodup) (each : List.Forall₂ ReorderedMember ms ns)
    (order : ns.Perm ks) : Arranged ms ks := by
  have names : (ns.map Prod.fst).Nodup := by rwa [← keys_reordered each]
  refine ⟨(order.map Prod.fst).nodup_iff.mp names, fun key => ?_⟩
  rw [← Dict.lookup_perm order names]
  exact lookup_reordered each key

/-- Each member that is written was there, in some order. -/
theorem Arranged.of_mem {ms ks : List (String × Value)} (arranged : Arranged ms ks)
    {k : String × Value} (member : k ∈ ks) : ∃ v, ms.lookup k.1 = some v ∧ v.Reordered k.2 := by
  have under := arranged.lookup k.1
  rw [Dict.lookup_of_mem arranged.distinct member] at under
  cases listed : ms.lookup k.1 with
  | none => simp [listed] at under
  | some v =>
      rw [listed] at under
      cases under with
      | some same => exact ⟨v, rfl, same⟩

/-- An object made of members with a key each is written with these members, in some order. -/
theorem Value.Reordered.of_members {ms : List (String × Value)} {w : Value}
    (same : (Value.ofMembers ms).Reordered w) (distinct : (ms.map Prod.fst).Nodup) :
    ∃ ks, w = .object ks ∧ Arranged ms ks := by
  have kept := Dict.perm_made distinct
  have names := (kept.map Prod.fst).nodup_iff.mpr distinct
  cases same with
  | @object _ ns ks each order =>
      have arranged := Arranged.of_reordered names each order
      refine ⟨ks, rfl, arranged.distinct, fun key => ?_⟩
      rw [← Dict.lookup_perm kept names]
      exact arranged.lookup key

/-- The order in which the members of an object were listed is one of its orders. -/
theorem Value.Reordered.listed {ms ks : List (String × Value)}
    (distinct : (ms.map Prod.fst).Nodup) (each : List.Forall₂ ReorderedMember ms ks) :
    (Value.ofMembers ms).Reordered (.object ks) := by
  obtain ⟨ns, inside, order⟩ := List.perm_comp_forall₂ (Dict.perm_made distinct) each
  exact .object inside order

/-! ### One member and the others -/

variable {ms ks : List (String × Value)} {key : String} {v : Value}

/-- The member under a key is the only one there. -/
theorem Arranged.only (arranged : Arranged ((key, v) :: ms) ks) :
    ∃ w, v.Reordered w ∧ ks.filter (·.1 = key) = [(key, w)] := by
  have under := arranged.lookup key
  rw [Dict.lookup_cons, if_pos rfl] at under
  cases held : ks.lookup key with
  | none => simp [held] at under
  | some w =>
      rw [held] at under
      cases under with
      | some same => exact ⟨w, same, Dict.filter_key arranged.distinct held⟩

/-- Without one member the others are arranged. -/
theorem Arranged.others (arranged : Arranged ((key, v) :: ms) ks)
    (fresh : key ∉ ms.map Prod.fst) : Arranged ms (ks.filter (·.1 ≠ key)) := by
  refine ⟨arranged.distinct.sublist (List.filter_sublist.map Prod.fst), fun name => ?_⟩
  rw [Dict.lookup_filter_ne]
  split
  · rename_i same
    rw [same, Dict.lookup_of_notMem fresh]
    exact .none
  · rename_i other
    have under := arranged.lookup name
    rwa [Dict.lookup_cons, if_neg other] at under

end Counsel.Json
