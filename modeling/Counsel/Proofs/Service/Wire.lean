import Counsel.Proofs.Flow.Encoding
import Counsel.Proofs.Session.Id
import Counsel.Service.Router

/-!
What goes over the wire arrives.

Client and service exchange texts of JSON. Whatever value one of them encodes, the other reads the
same value from the text, in whatever order the members of its objects are written
(`wire_round_trips`). The texts in it may hold any characters, and the lists may be of any length.
-/

namespace Counsel

open Json
open Json.Decoder (takes_text takes_bool takes_null takes_some takes_list takes_named)

variable {room : Nat}

/-! ### Conversations -/

namespace Axis

theorem decoder_takes (axis : Axis) : decoder.Takes axis.encode axis := by
  apply Fields.Takes.decode
  · exact (Fields.Takes.none.and (.required rfl (takes_text axis.key))).and
      (.required rfl (takes_text axis.label))
  · simp

theorem legible (axis : Axis) (enough : 1 < room) : axis.encode.Legible room :=
  legible_ofMembers enough (by simp) (by simp)

end Axis

theorem Role.decoder_takes (role : Role) : decoder.Takes role.encode role :=
  takes_named role.ofName?_name

theorem Tool.decoder_takes (tool : Tool) : decoder.Takes tool.encode tool :=
  takes_named tool.ofSlug?_slug

namespace Message

theorem decoder_takes (m : Message) : decoder.Takes m.encode m := by
  apply Fields.Takes.decode
  · exact (Fields.Takes.none.and (.required rfl m.role.decoder_takes)).and
      (.required rfl (takes_text m.text))
  · simp

theorem legible (m : Message) (enough : 1 < room) : m.encode.Legible room :=
  legible_ofMembers enough (by simp) (by simp [Role.encode])

end Message

namespace SessionKey

theorem encodeAxis_eq (axis : Option String) : encodeAxis axis = nullableText axis := by
  cases axis <;> rfl

theorem decoder_takes (key : SessionKey) : decoder.Takes key.encode key := by
  apply Fields.Takes.decode
  · exact (Fields.Takes.none.and (.required rfl key.tool.decoder_takes)).and
      (.nullable rfl (encodeAxis_eq key.axis ▸ takes_nullableText key.axis))
  · simp

theorem legible (key : SessionKey) (enough : 1 < room) : key.encode.Legible room :=
  legible_ofMembers enough (by simp)
    (by simp [Tool.encode, encodeAxis_eq])

end SessionKey

theorem SessionId.decoder_takes (id : SessionId) : decoder.Takes id.encode id := by
  intro d written
  have read := takes_text id.text d written
  simp only [decoder, read, bind, Except.bind, parse?_text]
  rfl

namespace Selection

/-- A selection is made of what its two members hold; the identifier is read once the kind is
known. -/
theorem decoder_of_parts {ms ks : List (String × Value)} {kind : String} {isSaved : Bool}
    {id : Option Doc} (arranged : Arranged ms ks) (listed : ms.lookup "type" = some (.text kind))
    (known : kindOfName? kind = some isSaved)
    (held : Fields.Takes (.withDefault "id" none fun d => .ok (some d)) ms id) :
    decoder (.object (docMembers ks) true) = ofParts isSaved id := by
  have fields : Fields.Takes (((Fields.none Prod.mk).and
      (.required "type" (.named .nothing kindOfName?))).and
      (.withDefault "id" none fun d => .ok (some d))) ms (isSaved, id) :=
    (Fields.Takes.none.and (.required listed (takes_named known))).and held
  simp only [decoder]
  rw [fields.fromObject arranged]
  rfl

theorem decoder_takes (s : Selection) : decoder.Takes s.encode s := by
  rintro d ⟨w, same, rfl⟩
  cases s with
  | current =>
      obtain ⟨ks, rfl, arranged⟩ := same.of_members (by simp)
      exact decoder_of_parts arranged rfl rfl (.default rfl)
  | saved id =>
      obtain ⟨ks, rfl, arranged⟩ := same.of_members (by simp)
      have held : ∀ s, Decoder.Takes (fun d => .ok (some d)) (.text s) (some (.text (some s))) := by
        rintro s d ⟨w, same, rfl⟩
        cases same
        rfl
      refine (decoder_of_parts arranged rfl rfl (.withDefault rfl (held id.text))).trans ?_
      have read : SessionId.decoder (.text (some id.text)) = .ok id :=
        id.decoder_takes _ ⟨.text id.text, .refl _, rfl⟩
      simp only [ofParts, read]
      rfl

theorem legible (s : Selection) (enough : 1 < room) : s.encode.Legible room := by
  cases s with
  | current => exact legible_ofMembers enough (by simp) (by simp)
  | saved id =>
      exact legible_ofMembers enough (by simp) (by simp [SessionId.encode])

end Selection

/-! ### The dialogue service -/

namespace Dialogue

namespace Turn

theorem decoder_takes (t : Turn) : decoder.Takes t.encode t := by
  apply Fields.Takes.decode
  · exact (Fields.Takes.none.and (.required rfl t.role.decoder_takes)).and
      (.required rfl (takes_text t.content))
  · simp

theorem legible (t : Turn) (enough : 1 < room) : t.encode.Legible room :=
  legible_ofMembers enough (by simp) (by simp [Role.encode])

end Turn

namespace Request

theorem encodeText?_eq (s : Option String) : encodeText? s = nullableText s := by
  cases s <;> rfl

theorem decoder_takes (r : Request) : decoder.Takes r.encode r := by
  apply Fields.Takes.decode
  · exact ((((Fields.Takes.none.and (.required rfl (takes_text r.sessionId))).and
      (.required rfl (takes_text r.message))).and
      (.withDefault rfl (takes_list fun t _ => t.decoder_takes))).and
      (.withDefault rfl (encodeText?_eq r.tool ▸ takes_nullableText r.tool))).and
      (.withDefault rfl (encodeText?_eq r.systemOverride ▸ takes_nullableText r.systemOverride))
  · simp

theorem legible (r : Request) (enough : 3 < room) : r.encode.Legible room := by
  have turns : (Value.array (r.history.map Turn.encode)).Legible (room - 1) :=
    legible_list (by omega) fun t _ => t.legible (by omega)
  apply legible_ofMembers (by omega)
  · simp
  · simp [turns, encodeText?_eq]

end Request

namespace Reply

theorem decoder_takes (r : Reply) : decoder.Takes r.encode r := by
  obtain ⟨text, axes⟩ := r
  apply Fields.Takes.decode
  · apply (Fields.Takes.none.and (.required rfl (takes_text text))).and
    cases axes with
    | none => exact .default rfl
    | some axes =>
        exact .withDefault rfl (takes_some (takes_list fun axis _ => axis.decoder_takes) nofun)
  · cases axes <;> simp

theorem legible (r : Reply) (enough : 3 < room) : r.encode.Legible room := by
  obtain ⟨text, axes⟩ := r
  have listed : ∀ axes, (Axis.encodeAll axes).Legible (room - 1) :=
    fun _ => legible_list (by omega) fun axis _ => axis.legible (by omega)
  apply legible_ofMembers (by omega)
  · cases axes <;> simp
  · cases axes <;> simp [listed]

end Reply

end Dialogue

namespace Service

namespace Health

theorem decoder_takes (h : Health) : decoder.Takes h.encode h := by
  apply Fields.Takes.decode
  · exact (Fields.Takes.none.and (.required rfl (takes_bool h.ok))).and
      (.required rfl (takes_list fun name _ => takes_text name))
  · simp

theorem legible (h : Health) (enough : 2 < room) : h.encode.Legible room := by
  have named : (Value.array (h.flows.map .text)).Legible (room - 1) :=
    legible_list (by omega) fun name _ => legible_text name
  apply legible_ofMembers (by omega)
  · simp
  · simp [named]

end Health

end Service

/-! ### The wire -/

/-- **What goes over the wire arrives.** Each kind of value that client and service exchange is read
back from its text as it was, whatever texts and however long lists are in it and in whatever order
the members stand. -/
theorem wire_round_trips :
    RoundTrips Axis.encode Axis.decoder ∧ RoundTrips Ask.encode Ask.decoder ∧
      RoundTrips Dialogue.Turn.encode Dialogue.Turn.decoder ∧
      RoundTrips Message.encode Message.decoder ∧
      RoundTrips Selection.encode Selection.decoder ∧
      RoundTrips SessionKey.encode SessionKey.decoder ∧
      RoundTrips Dialogue.Request.encode Dialogue.Request.decoder ∧
      RoundTrips Dialogue.Reply.encode Dialogue.Reply.decoder ∧
      RoundTrips FlowStep.encode FlowStep.decoder ∧ RoundTrips Flow.encode Flow.decoder ∧
      RoundTrips Service.Health.encode Service.Health.decoder := by
  refine ⟨.of_takes Axis.decoder_takes ?_, .of_takes Ask.decoder_takes ?_,
    .of_takes Dialogue.Turn.decoder_takes ?_, .of_takes Message.decoder_takes ?_,
    .of_takes Selection.decoder_takes ?_, .of_takes SessionKey.decoder_takes ?_,
    .of_takes Dialogue.Request.decoder_takes ?_, .of_takes Dialogue.Reply.decoder_takes ?_,
    .of_takes FlowStep.decoder_takes FlowStep.legible, .of_takes Flow.decoder_takes Flow.legible,
    .of_takes Service.Health.decoder_takes ?_⟩
  · exact fun axis => axis.legible (by decide)
  · exact fun ask => ask.legible (by decide)
  · exact fun turn => turn.legible (by decide)
  · exact fun message => message.legible (by decide)
  · exact fun selection => selection.legible (by decide)
  · exact fun key => key.legible (by decide)
  · exact fun request => request.legible (by decide)
  · exact fun reply => reply.legible (by decide)
  · exact fun health => health.legible (by decide)

/-- A step with a question in it, its members in another order than that of their keys. -/
theorem wire_round_trips_out_of_order :
    let question : Ask := ⟨"why", "text", "Why \"now\"?\n", none⟩
    let step : FlowStep := .ask "fit" question "why"
    let written : Value := .object [("node_id", .text "fit"),
      ("ask", .object [("id", .text "why"), ("type", .text "text"),
        ("prompt", .text "Why \"now\"?\n")]),
      ("awaiting", .text "why")]
    step.encode.Reordered written ∧ FlowStep.decoder.parse written.toText = .ok step := by
  intro question step written
  have distinct : ([("id", Value.text "why"), ("type", .text "text"),
      ("prompt", .text "Why \"now\"?\n")].map Prod.fst).Nodup := by simp
  have inside := Value.Reordered.listed distinct (reordered_members _)
  have same : step.encode.Reordered written :=
    .listed (by simp) (.cons (.under "node_id" (.refl _)) (.cons (.under "ask" inside)
      (.cons (.under "awaiting" (.refl _)) .nil)))
  obtain ⟨-, -, -, -, -, -, -, -, steps, -, -⟩ := wire_round_trips
  exact ⟨same, (steps step written same).1⟩

end Counsel
