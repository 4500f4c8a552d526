import Counsel.Proofs.Json.Parsing
import Counsel.Proofs.Service.Wire

/-!
The lenient reading of what the dialogue service answers.

A body need not be a reply as it is encoded. Whatever it is, it is read as one: `ReadFrom` says for
each kind of value what the reply has to be. A catalogue is looked for beside the reply, and one
that is none costs nothing else. `Axis.StandsFor` says which values stand for an axis, and
`axesOf?_eq_some_iff` that no others are taken for one.

* `body_is_read`: every body is read so. A body that has no reply in it becomes the reply as a text
  that denotes the same value, as long as its numbers are denoted by their own texts; integers of
  64 bits are, but not all beyond (`long_integer_altered`).
-/

namespace Counsel

open Json

/-! ### Catalogues -/

namespace Axis

/-- The value stands for the axis: it is an object with the texts of its key and its label, whatever
else is in it, or the list of both. -/
inductive StandsFor : Value → Axis → Prop where
  | object {members : List (String × Value)} {key label : String}
      (keyed : members.lookup "key" = some (.text key))
      (labelled : members.lookup "label" = some (.text label)) :
      StandsFor (.object members) ⟨key, label⟩
  | array (key label : String) : StandsFor (.array [.text key, .text label]) ⟨key, label⟩

/-- The value is a list of values that stand for the axes. -/
def Listed (v : Value) (axes : List Axis) : Prop :=
  ∃ items, v = .array items ∧ List.Forall₂ StandsFor items axes

/-- The fields of an axis. -/
def fields : Fields Axis :=
  ((Fields.none Axis.mk).and (.required "key" .text)).and (.required "label" .text)

theorem decoder_eq : decoder = fields.decode := rfl

variable {v : Value} {axis : Axis}

/-- An axis is made of the texts that are found under the names of its fields. -/
theorem build_fields_iff {found : String → Option Doc} : fields.build found = .ok axis ↔
    found "key" = some (.text (some axis.key)) ∧
      found "label" = some (.text (some axis.label)) := by
  obtain ⟨key, label⟩ := axis
  simp only [fields, Fields.build_and_iff, Fields.build_required_iff, Decoder.text_eq_ok_iff]
  constructor
  · rintro ⟨g, l, ⟨mk, k, ⟨⟩, ⟨d, keyed, rfl⟩, rfl⟩, ⟨e, labelled, rfl⟩, made⟩
    cases made
    exact ⟨keyed, labelled⟩
  · rintro ⟨keyed, labelled⟩
    exact ⟨_, label, ⟨_, key, rfl, ⟨_, keyed, rfl⟩, rfl⟩, ⟨_, labelled, rfl⟩, rfl⟩

theorem standsFor_of_object {members : List (String × Value)}
    (read : fields.decode (.object (docMembers members) true) = .ok axis) :
    StandsFor (.object members) axis := by
  obtain ⟨all, walked, built⟩ := bind_eq_ok_iff.mp read
  obtain ⟨keyed, labelled⟩ := build_fields_iff.mp built
  have text : ∀ {name s}, (members.lookup name).map Doc.ofValue = some (.text (some s)) →
      members.lookup name = some (.text s) := by
    intro name s written
    obtain ⟨v, listed, stands⟩ := Option.map_eq_some_iff.mp written
    rwa [Doc.ofValue_eq_text_iff.mp stands] at listed
  have key := Fields.lookup_of_known walked ⟨"key", _, false⟩ List.mem_cons_self
  have label := Fields.lookup_of_known walked ⟨"label", _, false⟩
    (List.mem_cons_of_mem _ List.mem_cons_self)
  exact .object (text (key.symm.trans keyed)) (text (label.symm.trans labelled))

theorem standsFor_of_array {items : List Value}
    (read : fields.decode (.array (docItems items) true) = .ok axis) :
    StandsFor (.array items) axis := by
  obtain ⟨found, walked, built⟩ := bind_eq_ok_iff.mp read
  obtain ⟨keyed, labelled⟩ := build_fields_iff.mp built
  obtain ⟨key, label⟩ := axis
  match items, walked with
  | [], walked => cases walked
  | [v], walked =>
      obtain ⟨_, -, walked⟩ := bind_eq_ok_iff.mp walked
      cases walked
  | [v, w], walked =>
      obtain ⟨_, -, walked⟩ := bind_eq_ok_iff.mp walked
      obtain ⟨all, walked, made⟩ := bind_eq_ok_iff.mp walked
      obtain ⟨_, -, walked⟩ := bind_eq_ok_iff.mp walked
      cases walked
      cases made
      obtain rfl := Doc.ofValue_eq_text_iff.mp (Option.some.inj keyed)
      obtain rfl := Doc.ofValue_eq_text_iff.mp (Option.some.inj labelled)
      exact .array key label
  | v :: w :: x :: rest, walked =>
      obtain ⟨_, -, walked⟩ := bind_eq_ok_iff.mp walked
      obtain ⟨all, walked, -⟩ := bind_eq_ok_iff.mp walked
      obtain ⟨_, -, walked⟩ := bind_eq_ok_iff.mp walked
      obtain ⟨all, walked, -⟩ := bind_eq_ok_iff.mp walked
      cases walked

/-- A value in which no key stands twice is read as an axis exactly if it stands for it. -/
theorem decoder_ofValue_iff (canonical : v.Canonical) :
    decoder (.ofValue v) = .ok axis ↔ StandsFor v axis := by
  rw [decoder_eq]
  constructor
  · intro read
    cases v with
    | array items => exact standsFor_of_array read
    | object members => exact standsFor_of_object read
    | _ => cases read
  · intro stands
    cases stands with
    | @object members key label keyed labelled =>
        have takes : fields.Takes members ⟨key, label⟩ :=
          (Fields.Takes.none.and (.required keyed (Decoder.takes_text key))).and
            (.required labelled (Decoder.takes_text label))
        have distinct : (members.map Prod.fst).Nodup := Dict.nodup_keys ⟨members, canonical.1⟩
        exact takes.fromObject (.of_reordered distinct (reordered_members members) (.refl members))
    | array key label => rfl

theorem canonical_encode (axis : Axis) : axis.encode.Canonical :=
  canonical_ofMembers (by simp [Value.Canonical])

theorem standsFor_encode (axis : Axis) : StandsFor axis.encode axis := by
  have under := get?_ofMembers [("key", .text axis.key), ("label", .text axis.label)] (by simp)
  rw [encode, Value.ofMembers_eq]
  exact .object (under "key") (under "label")

theorem listed_encodeAll (axes : List Axis) : Listed (encodeAll axes) axes := by
  refine ⟨_, rfl, ?_⟩
  rw [List.forall₂_map_left_iff]
  exact List.forall₂_same.mpr fun axis _ => standsFor_encode axis

end Axis

namespace Dialogue.Reply

/-- A catalogue is found in a list of values that stand for axes, and nowhere else. -/
theorem axesOf?_eq_some_iff {v : Value} {axes : List Axis} (canonical : v.Canonical) :
    axesOf? v = some axes ↔ Axis.Listed v axes := by
  have option : axesOf? v = some axes ↔ Decoder.list Axis.decoder (.ofValue v) = .ok axes := by
    rw [axesOf?]
    cases Decoder.list Axis.decoder (.ofValue v) <;> simp [Except.toOption]
  rw [option]
  cases v with
  | array items =>
      have ordered := canonicalItems_iff.mp canonical
      have listed : Axis.Listed (.array items) axes ↔ List.Forall₂ Axis.StandsFor items axes := by
        refine ⟨?_, fun each => ⟨items, rfl, each⟩⟩
        rintro ⟨_, ⟨⟩, each⟩
        exact each
      have read : Decoder.list Axis.decoder (.ofValue (.array items)) = .ok axes ↔
          Decoder.items Axis.decoder (docItems items) = .ok axes := by
        rw [Doc.ofValue, Decoder.list, bind_eq_ok_iff]
        constructor
        · rintro ⟨as, read, ⟨⟩⟩
          exact read
        · exact fun read => ⟨axes, read, rfl⟩
      rw [read, listed, Decoder.items_docItems_iff]
      constructor
      · intro each
        exact ((List.forall₂_and_left _ _).mpr ⟨ordered, each⟩).imp
          fun v a ⟨canonical, read⟩ => (Axis.decoder_ofValue_iff canonical).mp read
      · intro each
        exact ((List.forall₂_and_left _ _).mpr ⟨ordered, each⟩).imp
          fun v a ⟨canonical, stands⟩ => (Axis.decoder_ofValue_iff canonical).mpr stands
  | _ =>
      refine iff_of_false nofun ?_
      rintro ⟨items, ⟨⟩, -⟩

/-! ### Bodies -/

/-- What a reply has to say that is read from a body that denotes the value.

* A text under `reply` is the reply; anything else there is the reply as its JSON text.
* With something under `reply` the catalogue is what is listed under `axes`, if that is a list of
  values that stand for axes, whatever else is in the object.
* A text is the reply itself.
* All other values are the reply as their JSON text, without a catalogue. That text denotes the
  value again exactly if each of its numbers is denoted by its own text; integers of 64 bits are. -/
structure ReadFrom (v : Value) (r : Reply) : Prop where
  text : ∀ s, v.get? "reply" = some (.text s) → r.text = s
  other : ∀ u, v.get? "reply" = some u → (∀ s, u ≠ .text s) → r.text = u.toText
  axes : ∀ u, v.get? "reply" = some u → ∀ axes, r.axes = some axes ↔
    ∃ c, v.get? "axes" = some c ∧ Axis.Listed c axes
  plain : ∀ s, v = .text s → r = ⟨s, none⟩
  bare : v.get? "reply" = none → (∀ s, v ≠ .text s) → r.axes = none ∧
    (Value.parse r.text = .ok v ↔ ∀ n ∈ v.numbers, Value.parse n.text = .ok (.number n)) ∧
    ((∀ n ∈ v.numbers, n.IsShort) → Value.parse r.text = .ok v)

theorem get?_eq_some {v u : Value} {key : String} (held : v.get? key = some u) :
    ∃ members, v = .object members ∧ members.lookup key = some u := by
  cases v with
  | object members => exact ⟨members, rfl, held⟩
  | _ => cases held

theorem canonical_get? {v u : Value} {key : String} (canonical : v.Canonical)
    (held : v.get? key = some u) : u.Canonical := by
  obtain ⟨members, rfl, listed⟩ := get?_eq_some held
  exact canonicalMembers_iff.mp canonical.2 (key, u) (Dict.mem_of_lookup listed)

/-- A reply with something under `reply` is made of that and of the catalogue. -/
theorem ofValue_of_get? {v u : Value} (held : v.get? "reply" = some u) :
    ofValue v = ⟨textOf u, (v.get? "axes").bind axesOf?⟩ := by
  obtain ⟨members, rfl, -⟩ := get?_eq_some held
  rw [ofValue, held]

theorem textOf_of_ne {v : Value} (other : ∀ s, v ≠ .text s) : textOf v = v.toText := by
  cases v with
  | text s => exact absurd rfl (other s)
  | _ => rfl

/-- Without anything under `reply` the reply is all of the value. -/
theorem ofValue_of_none {v : Value} (missing : v.get? "reply" = none) (other : ∀ s, v ≠ .text s) :
    ofValue v = ⟨v.toText, none⟩ := by
  cases v with
  | object members => rw [ofValue, missing]; rfl
  | text s => exact absurd rfl (other s)
  | _ => rfl

theorem readFrom_ofValue {body : String} {v : Value} (parsed : Value.parse body = .ok v) :
    ReadFrom v (ofValue v) where
  text s held := by rw [ofValue_of_get? held, textOf]
  other u held other := by rw [ofValue_of_get? held, textOf_of_ne other]
  axes u held axes := by
    have canonical := (canonical_of_toValue (parse_eq_ok_iff.mp parsed).1).1
    rw [ofValue_of_get? held, Option.bind_eq_some_iff]
    refine exists_congr fun c => and_congr_right fun under => ?_
    exact axesOf?_eq_some_iff (canonical_get? canonical under)
  plain := by
    rintro s rfl
    rfl
  bare missing other := by
    rw [ofValue_of_none missing other]
    refine ⟨rfl, parse_toText_iff parsed, fun short => (parse_toText_iff parsed).mpr ?_⟩
    exact fun n member => Number.readsBack_iff_parse.mp (short n member).readsBack

theorem canonical_encode (r : Reply) : r.encode.Canonical := by
  have listed : ∀ axes, (Axis.encodeAll axes).Canonical := fun axes =>
    canonicalItems_iff.mpr (List.forall_mem_map.mpr fun axis _ => axis.canonical_encode)
  obtain ⟨text, axes⟩ := r
  refine canonical_ofMembers ?_
  cases axes <;> simp [Value.Canonical, listed]

/-- A reply is what its encoding says. -/
theorem ofValue_encode (r : Reply) : ofValue r.encode = r := by
  obtain ⟨text, axes⟩ := r
  cases axes with
  | none =>
      have under := get?_ofMembers [("reply", .text text)] (by simp)
      have held : Value.get? "reply" (encode ⟨text, none⟩) = some (.text text) := under "reply"
      have bare : Value.get? "axes" (encode ⟨text, none⟩) = none := under "axes"
      rw [ofValue_of_get? held, bare]
      rfl
  | some axes =>
      have under := get?_ofMembers [("reply", .text text), ("axes", Axis.encodeAll axes)] (by simp)
      have held : Value.get? "reply" (encode ⟨text, some axes⟩) = some (.text text) := under "reply"
      have catalogue : Value.get? "axes" (encode ⟨text, some axes⟩) = some (Axis.encodeAll axes) :=
        under "axes"
      have canonical := canonical_get? (canonical_encode ⟨text, some axes⟩) catalogue
      rw [ofValue_of_get? held, catalogue, Option.bind_some,
        (axesOf?_eq_some_iff canonical).mpr (Axis.listed_encodeAll axes), textOf]

/-- **Every body is read as a reply.** A reply is read back from its encoding, in whatever order the
members are written. A body that denotes a value is read for what is in the value (`ReadFrom`). A
body that denotes none is the reply itself, trimmed. -/
theorem body_is_read (r : Reply) (w : Value) (body : String) :
    (r.encode.Reordered w → ofBody w.toText = r) ∧
      (∀ v, Value.parse body = .ok v → ReadFrom v (ofBody body)) ∧
      ∀ fault, Value.parse body = .error fault → ofBody body = ⟨Text.trim body, none⟩ := by
  refine ⟨fun same => ?_, fun v parsed => ?_, fun fault refused => ?_⟩
  · have parsed := parse_reordered same r.canonical_encode (r.legible (by decide))
    rw [ofBody, parsed]
    exact ofValue_encode r
  · rw [ofBody, parsed]
    exact readFrom_ofValue parsed
  · rw [ofBody, refused]
    rfl

/-- A reply as the service writes it, one with a catalogue that is none, a body without a reply, and
one that is not JSON. -/
theorem bodies_are_read :
    let noted : Reply := ⟨"Noted", some [⟨"team_type", "Team type"⟩]⟩
    let written : Value := .object [("reply", .text "Noted"), ("axes", .array
      [.object [("key", .text "team_type"), ("label", .text "Team type")]])]
    let refused : Value := .object [("axes", .text "nope"), ("reply", .text "ok")]
    ofBody written.toText = noted ∧ ofBody refused.toText = ⟨"ok", none⟩ ∧
      Value.parse (ofBody "[1,2]").text = Value.parse "[1,2]" ∧
      ofBody "plain body\n" = ⟨"plain body", none⟩ := by
  intro noted written refused
  refine ⟨(body_is_read noted written "").1 ?_, ?_, ?_, ?_⟩
  · have inside : (Axis.encode ⟨"team_type", "Team type"⟩).Reordered
        (.object [("key", .text "team_type"), ("label", .text "Team type")]) :=
      .listed (by simp) (reordered_members _)
    exact .listed (by simp [noted]) (.cons (.under "reply" (.refl _))
      (.cons (.under "axes" (.array (.cons inside .nil))) .nil))
  · have parsed : Value.parse refused.toText = .ok refused := by
      refine parse_reordered (.refl refused) ?_ ?_
      · exact ⟨by decide, trivial, trivial, trivial⟩
      · simp [refused, Value.Legible, LegibleMembers, nestingRoom]
    have read := (body_is_read noted written refused.toText).2.1 refused parsed
    have text : (ofBody refused.toText).text = "ok" := read.text "ok" rfl
    have bare : (ofBody refused.toText).axes = none := by
      refine Option.eq_none_iff_forall_ne_some.mpr fun axes listed => ?_
      obtain ⟨c, ⟨⟩, items, bad, -⟩ := (read.axes (.text "ok") rfl axes).mp listed
      cases bad
    rw [← text, ← bare]
  · have parsed : Value.parse "[1,2]" = .ok (.array [.number (.integer 1), .number (.integer 2)]) :=
      by rfl
    have read := (body_is_read noted written "[1,2]").2.1 _ parsed
    obtain ⟨-, -, short⟩ := read.bare rfl nofun
    rw [parsed]
    refine short ?_
    simp [Value.numbers, itemNumbers, Number.IsShort]
  · have plain := (body_is_read noted written "plain body\n").2.2 .malformed (by rfl)
    exact plain.trans (by decide +kernel)

/-- An integer beyond 64 bits is read as a binary64 number, whose text denotes another one. -/
theorem long_integer_altered :
    let body := "147573952589676412928"
    (∃ n, Value.parse body = .ok (.number n)) ∧ (ofBody body).text = "1.4757395258967641e+20" ∧
      Value.parse (ofBody body).text ≠ Value.parse body := by
  intro body
  have parsed : ∃ n, Value.parse "147573952589676412928" = .ok (.number n) := ⟨_, by rfl⟩
  refine ⟨parsed, by decide +kernel, fun same => ?_⟩
  have texts := congrArg (fun parsed => parsed.toOption.map Value.toText) same
  revert texts
  decide +kernel

end Dialogue.Reply

end Counsel
