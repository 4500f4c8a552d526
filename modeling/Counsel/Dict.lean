/-!
Finite maps from texts, kept in the order of their keys by code point.

A dictionary is its list of entries with the proof that the keys ascend strictly, so a key has one
entry, two dictionaries with the same entries are equal, and listing one needs no sorting. Main
statements: an insertion changes what is under its key and nothing else (`get?_insert`), the keys of
a dictionary are pairwise different (`nodup_keys`), and its entries make it in whatever order they
come (`ofList_of_perm`).
-/

namespace Counsel

/-- A finite map from texts, with its entries in ascending order of the keys. -/
structure Dict (α : Type) where
  entries : List (String × α)
  sorted : entries.Pairwise (fun a b => a.1 < b.1)

namespace Dict

variable {α : Type}

/-- Puts an entry into a list that ascends, in the place of an entry with its key. -/
def insertEntry (key : String) (value : α) : List (String × α) → List (String × α)
  | [] => [(key, value)]
  | (k, v) :: rest =>
      if key < k then (key, value) :: (k, v) :: rest
      else if key = k then (key, value) :: rest
      else (k, v) :: insertEntry key value rest

theorem mem_insertEntry {key : String} {value : α} {entries : List (String × α)}
    {entry : String × α} (member : entry ∈ insertEntry key value entries) :
    entry = (key, value) ∨ entry ∈ entries := by
  induction entries with
  | nil => simp_all [insertEntry]
  | cons first rest ih =>
      unfold insertEntry at member
      split at member
      · simp_all
      · split at member <;> simp_all <;> grind

theorem sorted_insertEntry {key : String} {value : α} {entries : List (String × α)}
    (sorted : entries.Pairwise (fun a b => a.1 < b.1)) :
    (insertEntry key value entries).Pairwise (fun a b => a.1 < b.1) := by
  induction entries with
  | nil => simp [insertEntry]
  | cons first rest ih =>
      obtain ⟨k, v⟩ := first
      have ⟨below, ascending⟩ := List.pairwise_cons.mp sorted
      unfold insertEntry
      split
      · rename_i less
        refine List.pairwise_cons.mpr ⟨fun entry member => ?_, sorted⟩
        rcases List.mem_cons.mp member with rfl | member
        · exact less
        · exact String.lt_trans less (below entry member)
      · split
        · rename_i same
          subst same
          exact List.pairwise_cons.mpr ⟨below, ascending⟩
        · rename_i notLess different
          refine List.pairwise_cons.mpr ⟨fun entry member => ?_, ih ascending⟩
          rcases mem_insertEntry member with rfl | member
          · exact Std.lt_of_le_of_ne (String.not_lt.mp notLess) (Ne.symm different)
          · exact below entry member

/-- The map with nothing in it. -/
def empty : Dict α := ⟨[], List.Pairwise.nil⟩

/-- The map with `value` under `key`, whatever was there before. -/
def insert (d : Dict α) (key : String) (value : α) : Dict α :=
  ⟨insertEntry key value d.entries, sorted_insertEntry d.sorted⟩

/-- What is under a key. -/
def get? (d : Dict α) (key : String) : Option α := d.entries.lookup key

/-- Whether there is something under a key. -/
def contains (d : Dict α) (key : String) : Bool := (d.get? key).isSome

/-- The keys in ascending order. -/
def keys (d : Dict α) : List String := d.entries.map (·.1)

def size (d : Dict α) : Nat := d.entries.length

def isEmpty (d : Dict α) : Bool := d.entries.isEmpty

/-- The map that a list of entries makes, a later entry replacing an earlier one of its key. -/
def ofList (entries : List (String × α)) : Dict α :=
  entries.foldl (fun d entry => d.insert entry.1 entry.2) empty

instance : Inhabited (Dict α) := ⟨empty⟩

instance [Repr α] : Repr (Dict α) := ⟨fun d p => reprPrec d.entries p⟩

theorem ext {a b : Dict α} (same : a.entries = b.entries) : a = b := by
  cases a
  cases b
  simp_all

instance [DecidableEq α] : DecidableEq (Dict α) := fun a b =>
  if same : a.entries = b.entries then .isTrue (ext same)
  else .isFalse fun equal => same (congrArg entries equal)

/-! ### What the operations do -/

theorem isEmpty_iff {d : Dict α} : d.isEmpty = true ↔ d = empty := by
  refine List.isEmpty_iff.trans ⟨fun nothing => ext nothing, ?_⟩
  rintro rfl
  rfl

theorem lookup_cons (entry : String × α) (rest : List (String × α)) (key : String) :
    (entry :: rest).lookup key = if key = entry.1 then some entry.2 else rest.lookup key := by
  rw [List.lookup_cons]
  split
  · simp_all
  · simp_all

theorem lookup_insertEntry (key other : String) (value : α) (entries : List (String × α)) :
    (insertEntry key value entries).lookup other =
      if other = key then some value else entries.lookup other := by
  induction entries with
  | nil => rw [insertEntry, lookup_cons]
  | cons first rest ih =>
      obtain ⟨k, v⟩ := first
      unfold insertEntry
      split
      · rw [lookup_cons]
      · split
        · rename_i _ same
          subst same
          rw [lookup_cons, lookup_cons]
          split <;> simp_all
        · rename_i _ different
          rw [lookup_cons, lookup_cons, ih]
          by_cases atKey : other = k
          · subst atKey
            simp [Ne.symm different]
          · simp [atKey]

/-- An insertion changes what is under its key and nothing else. -/
theorem get?_insert (d : Dict α) (key other : String) (value : α) :
    (d.insert key value).get? other = if other = key then some value else d.get? other :=
  lookup_insertEntry key other value d.entries

theorem get?_insert_eq_none {d : Dict α} {key other : String} {value : α} :
    (d.insert key value).get? other = none ↔ other ≠ key ∧ d.get? other = none := by
  rw [get?_insert]
  split <;> simp_all

theorem contains_insert (d : Dict α) (key other : String) (value : α) :
    (d.insert key value).contains other = (decide (other = key) || d.contains other) := by
  rw [contains, contains, get?_insert]
  split <;> simp_all

/-- No key has two entries. -/
theorem nodup_keys (d : Dict α) : d.keys.Nodup := by
  have ascending : d.keys.Pairwise (· < ·) := List.pairwise_map.mpr d.sorted
  exact ascending.imp fun {a b} less => by
    rintro rfl
    exact String.lt_irrefl a less

theorem lookup_of_notMem {entries : List (String × α)} {key : String}
    (absent : key ∉ entries.map Prod.fst) : entries.lookup key = none := by
  rw [List.lookup_eq_none_iff]
  rintro entry member
  rw [bne_iff_ne]
  rintro rfl
  exact absent (List.mem_map_of_mem member)

/-- An entry is what is found under its key, where no other entry has it. -/
theorem lookup_of_mem {entries : List (String × α)} {entry : String × α}
    (distinct : (entries.map Prod.fst).Nodup) (member : entry ∈ entries) :
    entries.lookup entry.1 = some entry.2 := by
  induction entries with
  | nil => cases member
  | cons first rest ih =>
      rw [List.map_cons, List.nodup_cons] at distinct
      rw [lookup_cons]
      rcases List.mem_cons.mp member with rfl | member
      · rw [if_pos rfl]
      · have other : entry.1 ≠ first.1 := fun same =>
          distinct.1 (same ▸ List.mem_map_of_mem member)
        rw [if_neg other, ih distinct.2 member]
/-- Where no key has two entries, the one under a key is all there is under it. -/
theorem filter_key {entries : List (String × α)} {key : String} {value : α}
    (distinct : (entries.map Prod.fst).Nodup) (found : entries.lookup key = some value) :
    entries.filter (·.1 = key) = [(key, value)] := by
  induction entries with
  | nil => cases found
  | cons first rest ih =>
      rw [List.map_cons, List.nodup_cons] at distinct
      rw [lookup_cons] at found
      split at found
      · rename_i same
        subst same
        have single : rest.filter (·.1 = first.1) = [] := by
          refine List.filter_eq_nil_iff.mpr fun entry member again => distinct.1 ?_
          exact of_decide_eq_true again ▸ List.mem_map_of_mem member
        rw [List.filter_cons_of_pos (by simp), single, ← Option.some.inj found]
      · rename_i other
        rw [List.filter_cons_of_neg (by simpa using Ne.symm other), ih distinct.2 found]

theorem lookup_filter_ne (entries : List (String × α)) (key name : String) :
    (entries.filter (·.1 ≠ key)).lookup name =
      if name = key then none else entries.lookup name := by
  induction entries with
  | nil => simp
  | cons first rest ih =>
      by_cases same : first.1 = key
      · rw [List.filter_cons_of_neg (by simpa using same), ih, lookup_cons, same]
        split <;> rfl
      · rw [List.filter_cons_of_pos (by simpa using same), lookup_cons, lookup_cons, ih]
        split <;> simp_all

theorem mem_of_lookup {entries : List (String × α)} {key : String} {value : α}
    (found : entries.lookup key = some value) : (key, value) ∈ entries := by
  induction entries with
  | nil => cases found
  | cons first rest ih =>
      rw [lookup_cons] at found
      split at found
      · rename_i same
        rw [same, ← Option.some.inj found]
        exact List.mem_cons_self
      · exact List.mem_cons_of_mem _ (ih found)

/-- What is under a key is what the key has an entry with. -/
theorem get?_eq_some_iff {d : Dict α} {key : String} {value : α} :
    d.get? key = some value ↔ (key, value) ∈ d.entries := by
  refine ⟨mem_of_lookup, fun member => ?_⟩
  have found : d.get? (key, value).1 = some (key, value).2 := lookup_of_mem d.nodup_keys member
  exact found

theorem mem_keys_of_get? {d : Dict α} {key : String} {value : α} (found : d.get? key = some value) :
    key ∈ d.keys :=
  List.mem_map_of_mem (f := Prod.fst) (get?_eq_some_iff.mp found)

/-! ### Entries in another order -/

/-- What is under a key does not depend on the order, where no key is there twice. -/
theorem lookup_perm {entries others : List (String × α)} (order : entries.Perm others)
    (distinct : (entries.map Prod.fst).Nodup) (key : String) :
    entries.lookup key = others.lookup key := by
  induction order with
  | nil => rfl
  | cons entry _ ih =>
      rw [List.map_cons, List.nodup_cons] at distinct
      rw [lookup_cons, lookup_cons, ih distinct.2]
  | swap first second rest =>
      have differ : ¬ (key = second.1 ∧ key = first.1) := by
        rintro ⟨rfl, same⟩
        simp [same] at distinct
      simp only [lookup_cons]
      split <;> split <;> simp_all
  | trans swapped _ ih₁ ih₂ =>
      rw [ih₁ distinct, ih₂ ((swapped.map Prod.fst).nodup_iff.mp distinct)]

/-- An entry inserted under a key of its own joins the others. -/
theorem perm_insertEntry {key : String} {value : α} {entries : List (String × α)}
    (fresh : key ∉ entries.map Prod.fst) :
    (insertEntry key value entries).Perm ((key, value) :: entries) := by
  induction entries with
  | nil => exact .refl _
  | cons first rest ih =>
      simp only [List.map_cons, List.mem_cons, not_or] at fresh
      unfold insertEntry
      split
      · exact .refl _
      · rw [if_neg fresh.1]
        exact ((ih fresh.2).cons first).trans (.swap (key, value) first rest)

/-- Entries inserted one after the other, each under a key of its own, join the others. -/
theorem perm_insertEntries (added entries : List (String × α))
    (distinct : ((added ++ entries).map Prod.fst).Nodup) :
    (added.foldl (fun done entry => insertEntry entry.1 entry.2 done) entries).Perm
      (added ++ entries) := by
  induction added generalizing entries with
  | nil => exact .refl _
  | cons first rest ih =>
      have fresh : first.1 ∉ entries.map Prod.fst := by
        simp only [List.cons_append, List.map_cons, List.nodup_cons, List.map_append,
          List.mem_append, not_or] at distinct
        exact distinct.1.2
      have inserted : (rest ++ insertEntry first.1 first.2 entries).Perm
          (first :: rest ++ entries) :=
        ((perm_insertEntry fresh).append_left rest).trans List.perm_middle
      exact (ih _ ((inserted.map Prod.fst).nodup_iff.mpr distinct)).trans inserted

/-- Entries with a key each are all there is in the list they make. -/
theorem perm_made {entries : List (String × α)} (distinct : (entries.map Prod.fst).Nodup) :
    (entries.foldl (fun done entry => insertEntry entry.1 entry.2 done) []).Perm entries := by
  have kept := perm_insertEntries entries [] (by rwa [List.append_nil])
  rwa [List.append_nil] at kept

theorem entries_ofList (entries : List (String × α)) : (ofList entries).entries =
    entries.foldl (fun done entry => insertEntry entry.1 entry.2 done) [] :=
  (List.foldl_hom Dict.entries fun _ _ => rfl).symm

/-- A list makes no entries of its own. -/
theorem mem_of_mem_ofList {entries : List (String × α)} {entry : String × α}
    (member : entry ∈ (ofList entries).entries) : entry ∈ entries := by
  have inside : ∀ (added : List (String × α)) (d : Dict α),
      entry ∈ (added.foldl (fun d e => d.insert e.1 e.2) d).entries →
      entry ∈ added ∨ entry ∈ d.entries := by
    intro added
    induction added with
    | nil => exact fun _ member => .inr member
    | cons first rest ih =>
        intro d member
        rcases ih (d.insert first.1 first.2) member with later | before
        · exact .inl (List.mem_cons_of_mem _ later)
        · rcases mem_insertEntry before with rfl | before
          · exact .inl List.mem_cons_self
          · exact .inr before
  exact (inside entries empty member).resolve_right (List.not_mem_nil)

/-- The entries of a dictionary make it, in whatever order they come. -/
theorem ofList_of_perm {d : Dict α} {entries : List (String × α)}
    (order : entries.Perm d.entries) : ofList entries = d := by
  have distinct : (entries.map Prod.fst).Nodup :=
    (order.map Prod.fst).nodup_iff.mpr d.nodup_keys
  have same : (ofList entries).entries.Perm d.entries := by
    rw [entries_ofList]
    exact (perm_made distinct).trans order
  have antisymm : ∀ a b : String × α, a ∈ (ofList entries).entries → b ∈ d.entries →
      a.1 < b.1 → b.1 < a.1 → a = b :=
    fun a _ _ _ less more => absurd (String.lt_trans less more) (String.lt_irrefl a.1)
  exact ext (same.eq_of_pairwise antisymm (ofList entries).sorted d.sorted)

end Dict
end Counsel
