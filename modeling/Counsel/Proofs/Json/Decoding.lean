import Counsel.Proofs.Json.Reordering

/-!
What decoders read from values that were written.

A value is written as a document, with the members of its objects in some order
(`Value.WrittenAs`). `Decoder.Takes decode v a` says that the decoder reads `a` from every such
document. Each way to make a decoder has a rule for it, so that what a decoder takes is derived
along its definition. For records the rules are those of their fields (`Fields.Takes`), and
`Fields.Takes.fromObject` puts them together: known members come each once and pass their checks,
whatever else is there is passed over. A record without a member that its fields need is refused
(`Fields.Needs.fromObject`).

* `RoundTrips`: what is encoded is read back from the text, whatever the order of its members.
-/

namespace Counsel.Json

/-- The document is that of the value, with the members of its objects in some order. -/
def Value.WrittenAs (v : Value) (d : Doc) : Prop := ∃ w, v.Reordered w ∧ d = .ofValue w

/-- The decoder reads `a` wherever the value is written. -/
def Decoder.Takes {α : Type} (decode : Decoder α) (v : Value) (a : α) : Prop :=
  ∀ d, v.WrittenAs d → decode d = .ok a

variable {α β : Type}

namespace Decoder

variable {decode : Decoder α} {v : Value} {a : α}

theorem text_eq_ok_iff {d : Doc} {s : String} :
    text d = .ok s ↔ d = .text (some s) := by
  constructor
  · intro read
    cases d with
    | text value =>
        cases value with
        | none => cases read
        | some t =>
            cases read
            rfl
    | _ => cases read
  · rintro rfl
    rfl

theorem takes_text (s : String) : text.Takes (.text s) s := by
  rintro d ⟨w, same, rfl⟩
  cases same
  rfl

theorem takes_bool (b : Bool) : bool.Takes (.bool b) b := by
  rintro d ⟨w, same, rfl⟩
  cases same
  rfl

theorem takes_natBelow {n bound : Nat} (small : n < bound) :
    (natBelow bound).Takes (.number (.integer n)) n := by
  rintro d ⟨w, same, rfl⟩
  cases same
  have within : (0 : Int) ≤ n ∧ (n : Int) < bound := by omega
  exact if_pos within

theorem takes_null : (option decode).Takes .null none := by
  rintro d ⟨w, same, rfl⟩
  cases same
  rfl

theorem takes_some (takes : decode.Takes v a) (present : v ≠ .null) :
    (option decode).Takes v (some a) := by
  intro d written
  have read := takes d written
  obtain ⟨w, same, rfl⟩ := written
  cases same
  case null => exact absurd rfl present
  all_goals
    simp only [option, Doc.ofValue] at read ⊢
    rw [read]
    rfl

theorem takes_named {unit : Decoder Unit} {parse : String → Option α} {s : String}
    (parsed : parse s = some a) : (named unit parse).Takes (.text s) a := by
  rintro d ⟨w, same, rfl⟩
  cases same
  simp only [Doc.ofValue, named, parsed]

/-- Reading the whole value first makes no difference to a legible one. -/
theorem takes_whole {depth : Nat} (takes : decode.Takes v a)
    (legible : v.Legible (nestingRoom - depth)) : (whole depth decode).Takes v a := by
  intro d written
  have read := takes d written
  obtain ⟨w, same, rfl⟩ := written
  obtain ⟨u, valued⟩ := toValue_ofValue (legible.reordered same)
  simp only [whole, value, valued, read]
  rfl

/-- The items of an array are read one by one. -/
theorem items_docItems {as : List α} {ws : List Value}
    (each : List.Forall₂ (fun w a => decode (.ofValue w) = .ok a) ws as) :
    items decode (docItems ws) = .ok as := by
  induction each with
  | nil => rfl
  | cons read _ ih =>
      rw [docItems, items, read, ih]
      rfl

/-- The items of a list stand for values, each for its own. -/
theorem items_docItems_iff {vs : List Value} {as : List α} :
    items decode (docItems vs) = .ok as ↔
      List.Forall₂ (fun v a => decode (.ofValue v) = .ok a) vs as := by
  refine ⟨fun read => ?_, items_docItems⟩
  induction vs generalizing as with
  | nil =>
      cases read
      exact .nil
  | cons v vs ih =>
      rw [docItems, items] at read
      obtain ⟨a, first, read⟩ := bind_eq_ok_iff.mp read
      obtain ⟨as, rest, made⟩ := bind_eq_ok_iff.mp read
      cases made
      exact .cons first (ih rest)

theorem takes_list {encode : α → Value} {as : List α}
    (takes : ∀ a ∈ as, decode.Takes (encode a) a) :
    (list decode).Takes (.array (as.map encode)) as := by
  rintro d ⟨w, same, rfl⟩
  cases same with
  | @array _ ws each =>
      have written := (List.forall₂_and_left _ _).mpr ⟨takes, List.forall₂_map_left_iff.mp each⟩
      have read : List.Forall₂ (fun w a => decode (.ofValue w) = .ok a) ws as :=
        (written.imp fun a w ⟨takes, same⟩ => takes (.ofValue w) ⟨w, same, rfl⟩).flip
      rw [Doc.ofValue, list, items_docItems read]
      rfl

/-- The members of an object are read one by one. -/
theorem members_docMembers {entries : List (String × α)} {ks : List (String × Value)}
    (each : List.Forall₂ (fun k e => k.1 = e.1 ∧ decode (.ofValue k.2) = .ok e.2) ks entries) :
    members decode (docMembers ks) = .ok entries := by
  induction each with
  | nil => rfl
  | @cons k e ks entries read _ ih =>
      obtain ⟨key, value⟩ := k
      obtain ⟨rfl, value⟩ := read
      rw [docMembers, members, value, ih]
      rfl

theorem takes_dict {encode : α → Value} {entries : Dict α}
    (takes : ∀ e ∈ entries.entries, decode.Takes (encode e.2) e.2) :
    (dict decode).Takes (.object (entries.entries.map fun e => (e.1, encode e.2))) entries := by
  rintro d ⟨w, same, rfl⟩
  cases same with
  | @object _ ns ks each order =>
      have written := (List.forall₂_and_left _ _).mpr ⟨takes, List.forall₂_map_left_iff.mp each⟩
      have read : List.Forall₂ (fun k e => k.1 = e.1 ∧ decode (.ofValue k.2) = .ok e.2) ns
          entries.entries :=
        (written.imp fun e n ⟨takes, same⟩ =>
          ⟨same.key.symm, takes (.ofValue n.2) ⟨n.2, same.value, rfl⟩⟩).flip
      -- The reader meets the entries in the order of the text.
      obtain ⟨es, inOrder, rearranged⟩ := List.perm_comp_forall₂ order.symm read
      rw [Doc.ofValue, dict, members_docMembers inOrder]
      exact congrArg Except.ok (Dict.ofList_of_perm rearranged)

end Decoder

/-! ### Records -/

theorem filter_docMembers (keep : Option String → Bool) (ks : List (String × Value)) :
    (docMembers ks).filter (fun m => keep m.1) =
      docMembers (ks.filter fun k => keep (some k.1)) := by
  induction ks with
  | nil => rfl
  | cons k ks ih =>
      obtain ⟨key, v⟩ := k
      rw [docMembers, List.filter_cons, List.filter_cons, ih]
      split <;> rfl

namespace Fields

/-- The fields make `a` of these members: each passes its check and has its part in the record. -/
structure Takes (fields : Fields α) (ms : List (String × Value)) (a : α) : Prop where
  checks : ∀ slot ∈ fields.slots, ∀ v d, ms.lookup slot.name = some v → v.WrittenAs d →
    slot.check d = .ok ()
  builds : ∀ found : String → Option Doc,
    (∀ slot ∈ fields.slots, Option.Rel Value.WrittenAs (ms.lookup slot.name) (found slot.name)) →
    fields.build found = .ok a

namespace Takes

variable {ms : List (String × Value)} {name : String} {decode : Decoder α} {v : Value} {a : α}

theorem none : (Fields.none a).Takes ms a := ⟨nofun, fun _ _ => rfl⟩

theorem and {f : Fields (α → β)} {x : Fields α} {g : α → β} (function : f.Takes ms g)
    (argument : x.Takes ms a) : (f.and x).Takes ms (g a) := by
  refine ⟨fun slot member => ?_, fun found written => ?_⟩
  · rcases List.mem_append.mp member with first | second
    · exact function.checks slot first
    · exact argument.checks slot second
  · have first := function.builds found fun slot member =>
      written slot (List.mem_append_left x.slots member)
    have second := argument.builds found fun slot member =>
      written slot (List.mem_append_right f.slots member)
    simp only [Fields.and, first, second]
    rfl

/-- A field that reads what stands under its name takes it. -/
theorem present {mayEnd : Bool} {build : (String → Option Doc) → Except Fault α}
    (reads : ∀ found d, found name = some d → build found = decode d)
    (listed : ms.lookup name = some v) (takes : decode.Takes v a) :
    Fields.Takes ⟨[⟨name, fun d => (decode d).map fun _ => (), mayEnd⟩], build⟩ ms a := by
  refine ⟨fun slot member u d under written => ?_, fun found written => ?_⟩
  · obtain rfl := List.mem_singleton.mp member
    obtain rfl : v = u := Option.some.inj (listed.symm.trans under)
    simp only [takes d written]
    rfl
  · have under := written _ (List.mem_singleton.mpr rfl)
    rw [listed] at under
    cases held : found name with
    | none => simp [held] at under
    | some d =>
        rw [held] at under
        cases under with
        | some written => exact (reads found d held).trans (takes d written)

/-- A field that does without what stands under its name does so where nothing does. -/
theorem absent {check : Doc → Except Fault Unit} {mayEnd : Bool}
    {build : (String → Option Doc) → Except Fault α}
    (reads : ∀ found, found name = .none → build found = .ok a)
    (missing : ms.lookup name = .none) : Fields.Takes ⟨[⟨name, check, mayEnd⟩], build⟩ ms a := by
  refine ⟨fun slot member u d under _ => ?_, fun found written => ?_⟩
  · obtain rfl := List.mem_singleton.mp member
    rw [missing] at under
    cases under
  · have under := written _ (List.mem_singleton.mpr rfl)
    rw [missing] at under
    cases held : found name with
    | none => exact reads found held
    | some d => simp [held] at under

theorem required (listed : ms.lookup name = some v) (takes : decode.Takes v a) :
    (Fields.required name decode).Takes ms a :=
  present (fun found d held => by simp only [held]) listed takes

theorem withDefault {default : α} (listed : ms.lookup name = some v) (takes : decode.Takes v a) :
    (Fields.withDefault name default decode).Takes ms a :=
  present (fun found d held => by simp only [held]) listed takes

theorem nullable {b : Option α} (listed : ms.lookup name = some v)
    (takes : (Decoder.option decode).Takes v b) : (Fields.nullable name decode).Takes ms b :=
  present (fun found d held => by simp only [held]) listed takes

theorem default (missing : ms.lookup name = .none) :
    (Fields.withDefault name a decode).Takes ms a :=
  absent (fun found held => by simp only [held]) missing

end Takes

/-! ### What fields make -/

section

variable {found : String → Option Doc}

theorem build_and_iff {f : Fields (α → β)} {x : Fields α} {b : β} :
    (f.and x).build found = .ok b ↔
      ∃ g a, f.build found = .ok g ∧ x.build found = .ok a ∧ g a = b := by
  simp only [Fields.and, bind_eq_ok_iff]
  constructor
  · rintro ⟨g, function, a, argument, made⟩
    exact ⟨g, a, function, argument, Except.ok.inj made⟩
  · rintro ⟨g, a, function, argument, rfl⟩
    exact ⟨g, function, a, argument, rfl⟩

theorem build_required_iff {name : String} {decode : Decoder α} {a : α} :
    (required name decode).build found = .ok a ↔ ∃ d, found name = some d ∧ decode d = .ok a := by
  cases held : found name with
  | none => simp [required, held]
  | some d => simp [required, held]

end

/-! ### Walking the members -/

/-- Members of which each known one passes its check are walked to their end. -/
theorem scanMembers_checked {slots : List Slot} {ks : List (String × Value)}
    {found : List (String × Doc)} (distinct : (ks.map Prod.fst).Nodup)
    (fresh : ∀ k ∈ ks, found.lookup k.1 = .none)
    (checked : ∀ k ∈ ks, ∀ slot ∈ slots, slot.name = k.1 → slot.check (.ofValue k.2) = .ok ()) :
    ∃ all, scanMembers slots found (docMembers ks) = .ok all := by
  induction ks generalizing found with
  | nil => exact ⟨found, rfl⟩
  | cons k ks ih =>
      obtain ⟨key, v⟩ := k
      rw [List.map_cons, List.nodup_cons] at distinct
      obtain ⟨single, distinct⟩ : key ∉ ks.map Prod.fst ∧ (ks.map Prod.fst).Nodup := distinct
      have checkedRest := fun k member => checked k (List.mem_cons_of_mem _ member)
      rw [docMembers, scanMembers]
      cases known : slots.find? (·.name = key) with
      | none =>
          obtain ⟨all, walked⟩ := ih distinct
            (fun k member => fresh k (List.mem_cons_of_mem _ member)) checkedRest
          exact ⟨all, by simpa using walked⟩
      | some slot =>
          have named : slot.name = key := by simpa using List.find?_some known
          have passes : slot.check (.ofValue v) = .ok () := checked (key, v) List.mem_cons_self slot
            (List.mem_of_find?_eq_some known) named
          have unseen : found.lookup key = .none := fresh (key, v) List.mem_cons_self
          have freshRest : ∀ k ∈ ks, ((key, Doc.ofValue v) :: found).lookup k.1 = .none := by
            intro k member
            have other : k.1 ≠ key := by
              rintro rfl
              exact single (List.mem_map_of_mem member)
            rw [Dict.lookup_cons, if_neg other]
            exact fresh k (List.mem_cons_of_mem _ member)
          obtain ⟨all, walked⟩ := ih distinct freshRest checkedRest
          refine ⟨all, ?_⟩
          simp only [unseen, passes]
          exact walked

/-- What is found under the name of a field is what stood there first. -/
theorem lookup_of_known {slots : List Slot} {ks : List (String × Value)}
    {found all : List (String × Doc)} (walked : scanMembers slots found (docMembers ks) = .ok all)
    (slot : Slot) (known : slot ∈ slots) : all.lookup slot.name =
      (found.lookup slot.name).or ((ks.lookup slot.name).map .ofValue) := by
  induction ks generalizing found with
  | nil =>
      cases walked
      simp
  | cons k ks ih =>
      obtain ⟨key, v⟩ := k
      simp only [docMembers, scanMembers, whole_ofValue, if_true] at walked
      rw [Dict.lookup_cons]
      cases search : slots.find? (·.name = key) with
      | none =>
          simp only [search] at walked
          have other : slot.name ≠ key := by simpa using List.find?_eq_none.mp search slot known
          rw [ih walked, if_neg other]
      | some first =>
          simp only [search] at walked
          split at walked
          · cases walked
          · rename_i unseen
            cases passes : first.check (.ofValue v) with
            | error fault =>
                rw [passes] at walked
                cases walked
            | ok _ =>
                rw [passes] at walked
                rw [ih walked, Dict.lookup_cons]
                by_cases same : slot.name = key
                · simp [same, Option.not_isSome_iff_eq_none.mp unseen]
                · simp [same]

/-! ### Objects -/

variable {fields : Fields α} {ms ks : List (String × Value)} {a : α} {name : String}

/-- The fields of a record take the members of an object in whatever order they are written. -/
theorem Takes.fromObject (takes : fields.Takes ms a) (arranged : Arranged ms ks) :
    fields.fromObject (.object (docMembers ks) true) = .ok a := by
  have checked : ∀ k ∈ ks, ∀ slot ∈ fields.slots, slot.name = k.1 →
      slot.check (.ofValue k.2) = .ok () := by
    intro k member slot known named
    obtain ⟨v, listed, same⟩ := arranged.of_mem member
    exact takes.checks slot known v _ (named ▸ listed) ⟨k.2, same, rfl⟩
  have fresh : ∀ k ∈ ks, ([] : List (String × Doc)).lookup k.1 = .none := fun _ _ => rfl
  obtain ⟨all, walked⟩ := scanMembers_checked arranged.distinct fresh checked
  have built : fields.build (fun name => all.lookup name) = .ok a := by
    refine takes.builds _ fun slot known => ?_
    have under := arranged.lookup slot.name
    rw [lookup_of_known walked slot known]
    cases listed : ms.lookup slot.name <;> cases written : ks.lookup slot.name
    case some.some v w =>
      rw [listed, written] at under
      cases under with
      | some same => exact .some ⟨w, same, rfl⟩
    case none.none => exact .none
    all_goals simp [listed, written] at under
  simp only [Fields.fromObject, walked]
  exact built

/-- A record is read from the object of its members. -/
theorem Takes.decode (takes : fields.Takes ms a) (distinct : (ms.map Prod.fst).Nodup) :
    Decoder.Takes fields.decode (.ofMembers ms) a := by
  rintro d ⟨w, same, rfl⟩
  obtain ⟨ks, rfl, arranged⟩ := same.of_members distinct
  exact takes.fromObject arranged

/-! ### Missing members -/

/-- The fields make nothing where there is nothing under this name. -/
def Needs (fields : Fields α) (name : String) : Prop :=
  ∀ found : String → Option Doc, found name = .none → ∃ fault, fields.build found = .error fault

theorem Needs.required {decode : Decoder α} : (Fields.required name decode).Needs name :=
  fun found missing => ⟨.misshapen, by simp only [Fields.required, missing]⟩

theorem Needs.function {f : Fields (α → β)} {x : Fields α} (needs : f.Needs name) :
    (f.and x).Needs name := by
  intro found missing
  obtain ⟨fault, fails⟩ := needs found missing
  refine ⟨fault, ?_⟩
  simp only [Fields.and, fails]
  rfl

theorem Needs.argument {f : Fields (α → β)} {x : Fields α} (needs : x.Needs name) :
    (f.and x).Needs name := by
  intro found missing
  obtain ⟨fault, fails⟩ := needs found missing
  cases function : f.build found with
  | error other =>
      refine ⟨other, ?_⟩
      simp only [Fields.and, function]
      rfl
  | ok g =>
      refine ⟨fault, ?_⟩
      simp only [Fields.and, function, fails]
      rfl

/-- Nothing is found under a name that no member has. -/
theorem lookup_scanMembers {slots : List Slot} {found all : List (String × Doc)}
    (walked : scanMembers slots found (docMembers ks) = .ok all)
    (missing : name ∉ ks.map Prod.fst) : all.lookup name = found.lookup name := by
  induction ks generalizing found with
  | nil =>
      cases walked
      rfl
  | cons k ks ih =>
      obtain ⟨key, v⟩ := k
      rw [List.map_cons, List.mem_cons, not_or] at missing
      have other : name ≠ key := missing.1
      simp only [docMembers, scanMembers, whole_ofValue, if_true] at walked
      cases known : slots.find? (·.name = key) with
      | none =>
          simp only [known] at walked
          exact ih walked missing.2
      | some slot =>
          simp only [known] at walked
          split at walked
          · cases walked
          · cases passes : slot.check (.ofValue v) with
            | error fault =>
                rw [passes] at walked
                cases walked
            | ok _ =>
                rw [passes] at walked
                rw [ih walked missing.2, Dict.lookup_cons, if_neg other]

/-- An object without a member that the fields need is no record of theirs. -/
theorem Needs.fromObject (needs : fields.Needs name) (arranged : Arranged ms ks)
    (missing : ms.lookup name = .none) :
    ∃ fault, fields.fromObject (.object (docMembers ks) true) = .error fault := by
  have unwritten : name ∉ ks.map Prod.fst := by
    intro written
    obtain ⟨k, member, rfl⟩ := List.mem_map.mp written
    obtain ⟨v, listed, -⟩ := arranged.of_mem member
    cases missing.symm.trans listed
  cases walked : scanMembers fields.slots [] (docMembers ks) with
  | error fault =>
      refine ⟨fault, ?_⟩
      simp only [Fields.fromObject, walked]
      rfl
  | ok all =>
      obtain ⟨fault, fails⟩ := needs (fun name => all.lookup name)
        (lookup_scanMembers walked unwritten)
      refine ⟨fault, ?_⟩
      simp only [Fields.fromObject, walked]
      exact fails

end Fields

/-! ### Texts -/

/-- What is encoded can be written in any order of the members, and is read back from the text,
whether all of the text is looked at or only its start. -/
def RoundTrips (encode : α → Value) (decode : Decoder α) : Prop :=
  ∀ a w, (encode a).Reordered w →
    decode.parse w.toText = .ok a ∧ decode.parseStart w.toText = .ok a

theorem RoundTrips.of_takes {encode : α → Value} {decode : Decoder α}
    (takes : ∀ a, decode.Takes (encode a) a) (legible : ∀ a, (encode a).Legible nestingRoom) :
    RoundTrips encode decode := by
  intro a w same
  have written := (legible a).reordered same
  have read := takes a (.ofValue w) ⟨w, same, rfl⟩
  exact ⟨(Decoder.parse_toText written).trans read, (Decoder.parseStart_toText written).trans read⟩

end Counsel.Json
