import Counsel.Flow.Basic
import Counsel.Proofs.Json.Decoding

/-!
What is encoded of flows and their steps is read back.

A question, a rule, a node, a flow and a step are each read from what their encoding is written as
(`decoder_takes`). Two things need a look. A node is told by one of its members, its kind, and the
others are read by the fields of that kind. A step has no such member: it is read as the first
shape that fits, and no shape that comes before its own does, because each needs a member that the
encoding does not have.
-/

namespace Counsel

open Json
open Json.Decoder (takes_text takes_bool takes_null takes_some takes_list takes_dict takes_whole)

variable {ms : List (String × Value)} {name : String} {room : Nat}

/-! ### Optional members -/

/-- A text that may be missing is read as a field that may be. -/
theorem takes_optional {s : Option String} (listed : ms.lookup name = s.map .text) :
    (Fields.withDefault name none (.option .text)).Takes ms s := by
  cases s with
  | none => exact .default listed
  | some s => exact .withDefault listed (takes_some (takes_text s) nofun)

theorem takes_nullableText (s : Option String) :
    (Decoder.option .text).Takes (nullableText s) s := by
  cases s with
  | none => exact takes_null
  | some s => exact takes_some (takes_text s) nofun

@[simp] theorem legible_nullableText (s : Option String) : (nullableText s).Legible room := by
  cases s <;> trivial

/-! ### Questions and rules -/

namespace Ask

theorem decoder_takes (a : Ask) : decoder.Takes a.encode a := by
  apply Fields.Takes.decode
  · exact (((Fields.Takes.none.and (.required rfl (takes_text a.id))).and
      (.required rfl (takes_text a.kind))).and (.required rfl (takes_text a.prompt))).and
      (takes_optional (by cases a.helperText <;> rfl))
  · cases a.helperText <;> simp [optionalMember]

theorem legible (a : Ask) (enough : 1 < room) : a.encode.Legible room := by
  apply legible_ofMembers enough
  · cases a.helperText <;> simp [optionalMember]
  · cases a.helperText <;> simp [optionalMember]

end Ask

namespace Rule

theorem decoder_takes (r : Rule) : decoder.Takes r.encode r := by
  apply Fields.Takes.decode
  · exact ((Fields.Takes.none.and (takes_optional (by cases r.when <;> rfl))).and
      (.withDefault rfl (takes_bool r.otherwise))).and (.required rfl (takes_text r.goto))
  · cases r.when <;> simp [optionalMember]

theorem legible (r : Rule) (enough : 1 < room) : r.encode.Legible room := by
  apply legible_ofMembers enough
  · cases r.when <;> simp [optionalMember]
  · cases r.when <;> simp [optionalMember]

end Rule

/-! ### Nodes -/

namespace Node

/-- The fields of a node's kind take its members. -/
theorem fields_takes (n : Node) :
    ∃ fields, fields? n.kind = some fields ∧ fields.Takes n.members n := by
  cases n with
  | composite asks passIf rules labels =>
      have compute : Decoder.Takes
          (Fields.decode ((Fields.none id).and (.required "pass_if" .text)))
          (.ofMembers [("pass_if", .text passIf)]) passIf := by
        apply Fields.Takes.decode
        · exact Fields.Takes.none.and (.required rfl (takes_text passIf))
        · simp
      refine ⟨_, rfl, (((Fields.Takes.none.and (.required rfl ?_)).and (.required rfl compute)).and
        (.required rfl ?_)).and (.withDefault rfl ?_)⟩
      · exact takes_list fun a _ => a.decoder_takes
      · exact takes_list fun r _ => r.decoder_takes
      · exact takes_dict fun e _ => takes_text e.2
  | yesno prompt onYes onNo =>
      exact ⟨_, rfl, ((Fields.Takes.none.and (.required rfl (takes_text prompt))).and
        (.required rfl (takes_text onYes))).and (.required rfl (takes_text onNo))⟩
  | collect prompt next =>
      exact ⟨_, rfl, (Fields.Takes.none.and (.required rfl (takes_text prompt))).and
        (.required rfl (takes_text next))⟩
  | finish recommendation =>
      exact ⟨_, rfl, Fields.Takes.none.and
        (.withDefault rfl (takes_nullableText recommendation))⟩

theorem nodup_members (n : Node) :
    ((("kind", Value.text n.kind) :: n.members).map Prod.fst).Nodup := by
  cases n <;> simp [members]

theorem legible (n : Node) (enough : 3 < room) : n.encode.Legible room := by
  apply legible_ofMembers (by omega) n.nodup_members
  rw [List.forall_mem_cons]
  refine ⟨trivial, ?_⟩
  cases n with
  | composite asks passIf rules labels =>
      have asked : (Value.array (asks.map Ask.encode)).Legible (room - 1) :=
        legible_list (by omega) fun a _ => a.legible (by omega)
      have ruled : (Value.array (rules.map Rule.encode)).Legible (room - 1) :=
        legible_list (by omega) fun r _ => r.legible (by omega)
      have compute : (Value.ofMembers [("pass_if", .text passIf)]).Legible (room - 1) :=
        legible_ofMembers (by omega) (by simp) (by simp)
      have labelled : (Value.object (labels.entries.map fun e => (e.1, .text e.2))).Legible
          (room - 1) := legible_dict (by omega) fun e _ => legible_text e.2
      simp only [members, List.forall_mem_cons]
      exact ⟨asked, compute, ruled, labelled, nofun⟩
  | yesno prompt onYes onNo => simp [members]
  | collect prompt next => simp [members]
  | finish recommendation => simp [members]

/-- A node is told by its kind, wherever that stands among the members. -/
theorem decoder_takes (n : Node) : decoder.Takes n.encode n := by
  refine takes_whole ?_ (n.legible (by decide))
  rintro d ⟨w, same, rfl⟩
  obtain ⟨ks, rfl, arranged⟩ := same.of_members n.nodup_members
  obtain ⟨kind, same, only⟩ := arranged.only
  have others := arranged.others (List.nodup_cons.mp n.nodup_members).1
  obtain ⟨fields, known, takes⟩ := n.fields_takes
  cases same
  have alone : (docMembers ks).filter (·.1 = some "kind") =
      [(some "kind", .text (some n.kind))] := by
    rw [filter_docMembers fun key => key = some "kind"]
    simp only [Option.some.injEq, only]
    rfl
  have left : (docMembers ks).filter (·.1 ≠ some "kind") =
      docMembers (ks.filter (·.1 ≠ "kind")) := by
    rw [filter_docMembers fun key => key ≠ some "kind"]
    simp only [ne_eq, Option.some.injEq]
  simp only [Doc.ofValue, alone, left, ofParts, known]
  exact takes.fromObject others

end Node

/-! ### Flows -/

namespace Flow

theorem decoder_takes (f : Flow) : decoder.Takes f.encode f := by
  apply Fields.Takes.decode
  · exact ((Fields.Takes.none.and (.withDefault rfl (takes_text f.id))).and
      (.required rfl (takes_text f.start))).and
      (.required rfl (takes_dict fun e _ => e.2.decoder_takes))
  · simp

theorem legible (f : Flow) : f.encode.Legible nestingRoom := by
  have nodes : (Value.object (f.nodes.entries.map fun e => (e.1, e.2.encode))).Legible
      (nestingRoom - 1) := legible_dict (by decide) fun e _ => e.2.legible (by decide)
  apply legible_ofMembers (by decide)
  · simp
  · simp only [List.forall_mem_cons]
    exact ⟨trivial, trivial, nodes, nofun⟩

end Flow

/-! ### Steps -/

namespace FlowStep

variable {d : Doc} {fields : Fields FlowStep} {rest : List (Fields FlowStep)}

theorem firstFitting_of_fits {s : FlowStep} (fits : fields.fromObject d = .ok s) :
    firstFitting d (fields :: rest) = .ok s := by
  simp only [firstFitting, fits]

theorem firstFitting_of_refused (refused : ∃ fault, fields.fromObject d = .error fault) :
    firstFitting d (fields :: rest) = firstFitting d rest := by
  obtain ⟨fault, refused⟩ := refused
  simp only [firstFitting, refused]

theorem legible (s : FlowStep) : s.encode.Legible nestingRoom := by
  cases s with
  | ask nodeId question awaiting =>
      apply legible_ofMembers (by decide)
      · simp
      · simp only [List.forall_mem_cons]
        exact ⟨trivial, question.legible (by decide), trivial, nofun⟩
  | goto target => exact legible_ofMembers (by decide) (by simp) (by simp)
  | finish ended recommendation =>
      exact legible_ofMembers (by decide) (by simp) (by simp)
  | error message => exact legible_ofMembers (by decide) (by simp) (by simp)

/-- A step is read as the shape it was encoded from, though no member says which that is. -/
theorem decoder_takes (s : FlowStep) : decoder.Takes s.encode s := by
  refine takes_whole ?_ s.legible
  rintro d ⟨w, same, rfl⟩
  -- Each shape but the last has a member that no later one has.
  have asks : Fields.Needs ((((Fields.none ask).and (.required "node_id" .text)).and
      (.required "ask" Ask.decoder)).and (.required "awaiting" .text)) "node_id" :=
    .function (.function (.argument .required))
  have leads : Fields.Needs ((Fields.none goto).and (.required "goto" .text)) "goto" :=
    .argument .required
  have ends : Fields.Needs (((Fields.none finish).and (.required "end" .bool)).and
      (.required "recommendation" .text)) "end" := .function (.argument .required)
  cases s with
  | ask nodeId question awaiting =>
      obtain ⟨ks, rfl, arranged⟩ := same.of_members (by simp)
      refine firstFitting_of_fits (Fields.Takes.fromObject ?_ arranged)
      exact ((Fields.Takes.none.and (.required rfl (takes_text nodeId))).and
        (.required rfl question.decoder_takes)).and (.required rfl (takes_text awaiting))
  | goto target =>
      obtain ⟨ks, rfl, arranged⟩ := same.of_members (by simp)
      refine (firstFitting_of_refused (asks.fromObject arranged rfl)).trans ?_
      refine firstFitting_of_fits (Fields.Takes.fromObject ?_ arranged)
      exact Fields.Takes.none.and (.required rfl (takes_text target))
  | finish ended recommendation =>
      obtain ⟨ks, rfl, arranged⟩ := same.of_members (by simp)
      refine (firstFitting_of_refused (asks.fromObject arranged rfl)).trans ?_
      refine (firstFitting_of_refused (leads.fromObject arranged rfl)).trans ?_
      refine firstFitting_of_fits (Fields.Takes.fromObject ?_ arranged)
      exact (Fields.Takes.none.and (.required rfl (takes_bool ended))).and
        (.required rfl (takes_text recommendation))
  | error message =>
      obtain ⟨ks, rfl, arranged⟩ := same.of_members (by simp)
      refine (firstFitting_of_refused (asks.fromObject arranged rfl)).trans ?_
      refine (firstFitting_of_refused (leads.fromObject arranged rfl)).trans ?_
      refine (firstFitting_of_refused (ends.fromObject arranged rfl)).trans ?_
      refine firstFitting_of_fits (Fields.Takes.fromObject ?_ arranged)
      exact Fields.Takes.none.and (.required rfl (takes_text message))

end FlowStep

end Counsel
