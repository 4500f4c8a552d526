import Counsel.Config
import Counsel.Proofs.Json.Decoding
import Counsel.Proofs.Toml.Sections

/-!
Settings survive saving.

The TOML text of settings has two sections, and each setting is a line of one of them. What is read
of such a text is the table of the sections, whatever quotes its texts have; and what the decoder
reads of the table are the settings, since a table is an object in the order of the text. Settings
have no text only if a number is beyond those of TOML or the folder of flows is no text
(`Writable`), and then nothing is written.

* `save_spec`: settings that have a text are saved and loaded again as they were, and the others
  leave the file as it was.
-/

namespace Counsel

open Json (Fields Value)
open Json.Decoder (takes_text takes_some takes_named takes_natBelow)

/-! ### Decoding -/

theorem Path.decoder_takes (dir : String) : Path.decoder.Takes (.text dir) (.text dir) := by
  intro d written
  simp only [Path.decoder, takes_text dir d written]
  rfl

namespace Config

/-- The members of a workspace's settings. -/
def dialogueMembers (c : DialogueConfig) : List (String × Value) :=
  [("base_url", .text c.baseUrl), ("request_timeout_secs", .number (.integer c.requestTimeout)),
    ("default_tool", .text c.defaultTool.slug)]

/-- The members of a service's settings, with the folder of flows as a text. -/
def serverMembers (port : Nat) (flowsDir : Option String) : List (String × Value) :=
  ("port", .number (.integer port)) ::
    match flowsDir with
    | some dir => [("flows_dir", .text dir)]
    | none => []

theorem dialogueDecoder_takes {unit : Json.Decoder Unit} {c : DialogueConfig}
    (timeout : c.requestTimeout < 2 ^ 64) :
    (dialogueDecoder unit).Takes (.ofMembers (dialogueMembers c)) c := by
  apply Fields.Takes.decode
  · exact (((Fields.Takes.none.and (.required rfl (takes_text c.baseUrl))).and
      (.withDefault rfl (takes_natBelow timeout))).and
      (.withDefault rfl (takes_named (Tool.ofSlug?_slug c.defaultTool))))
  · simp [dialogueMembers]

theorem serverDecoder_takes {port : Nat} {flowsDir : Option String} (ported : port < portCount) :
    serverDecoder.Takes (.ofMembers (serverMembers port flowsDir))
      ⟨port, flowsDir.map .text⟩ := by
  apply Fields.Takes.decode
  · refine (Fields.Takes.none.and (.required rfl (takes_natBelow ported))).and ?_
    cases flowsDir with
    | none => exact .default rfl
    | some dir => exact .withDefault rfl (takes_some (Path.decoder_takes dir) nofun)
  · cases flowsDir <;> simp [serverMembers]

/-- The members of settings. -/
def members (c : Config) (flowsDir : Option String) : List (String × Value) :=
  [("dialogue", .ofMembers (dialogueMembers c.dialogue)),
    ("server", .ofMembers (serverMembers c.server.port flowsDir))]

section Written

variable {c : Config} {flowsDir : Option String}

theorem decoderFor_takes (unit : Json.Decoder Unit) (timeout : c.dialogue.requestTimeout < 2 ^ 64)
    (ported : c.server.port < portCount) (dir : c.server.flowsDir = flowsDir.map .text) :
    (decoderFor unit).Takes (.ofMembers (members c flowsDir)) c := by
  obtain ⟨dialogue, port, _⟩ := c
  obtain rfl := dir
  apply Fields.Takes.decode
  · exact (Fields.Takes.none.and (.withDefault rfl (dialogueDecoder_takes timeout))).and
      (.withDefault rfl (serverDecoder_takes ported))
  · simp [members]

/-! ### The text -/

/-- The sections of the text of settings. -/
def sections (c : Config) (flowsDir : Option String) : List Toml.Section :=
  [⟨"dialogue", [.ofText "base_url" c.dialogue.baseUrl,
      .ofNatural "request_timeout_secs" c.dialogue.requestTimeout,
      .ofText "default_tool" c.dialogue.defaultTool.slug]⟩,
    ⟨"server", .ofNatural "port" c.server.port ::
      match flowsDir with
      | some dir => [.ofText "flows_dir" dir]
      | none => []⟩]

/-- The text of settings is that of their sections. -/
theorem toToml_eq (timeout : c.dialogue.requestTimeout < 2 ^ 63)
    (dir : c.server.flowsDir = flowsDir.map .text) :
    c.toToml = .ok (.ofList (Toml.sectionsText (sections c flowsDir))) := by
  have lines (text : String) (same : text.toList = Toml.sectionsText (sections c flowsDir)) :
      text = .ofList (Toml.sectionsText (sections c flowsDir)) := by
    rw [← same, String.ofList_toList]
  rw [toToml, if_pos (Toml.fits_natCast.mpr timeout), dir]
  cases flowsDir <;>
  · refine congrArg Except.ok (lines _ ?_)
    simp [sections, Toml.sectionsText, Toml.Section.chars, Toml.Line.chars, Toml.Line.ofText,
      Toml.Line.ofNatural, List.intercalate]

theorem plain_sections (timeout : c.dialogue.requestTimeout < 2 ^ 63)
    (ported : c.server.port < portCount) (flowsDir : Option String) :
    ∀ p ∈ sections c flowsDir, p.Plain := by
  have port : c.server.port < 2 ^ 63 := Nat.lt_trans ported (by decide)
  unfold sections
  rw [List.forall_mem_cons, List.forall_mem_singleton]
  refine ⟨⟨show Toml.IsBareKey "dialogue" by decide, ?_, ?_⟩,
    ⟨show Toml.IsBareKey "server" by decide, ?_, ?_⟩⟩
  · simp only [List.forall_mem_cons, List.not_mem_nil, false_implies, implies_true, and_true]
    exact ⟨.ofText (by decide) _, .ofNatural (by decide) timeout, .ofText (by decide) _⟩
  · simp [Toml.Line.ofText, Toml.Line.ofNatural]
  · rw [List.forall_mem_cons]
    refine ⟨.ofNatural (by decide) port, ?_⟩
    cases flowsDir with
    | none => simp
    | some dir => exact List.forall_mem_singleton.mpr (.ofText (by decide) dir)
  · cases flowsDir <;> simp [Toml.Line.ofText, Toml.Line.ofNatural]

/-- The table of the sections is written as the settings are. -/
theorem toDoc_sections (c : Config) (flowsDir : Option String) :
    (Value.ofMembers (members c flowsDir)).WrittenAs
      (Toml.Value.table ((sections c flowsDir).map fun p => (p.name, p.table))).toDoc := by
  have dialogue : (Value.ofMembers (dialogueMembers c.dialogue)).Reordered
      (.object (dialogueMembers c.dialogue)) :=
    .listed (by simp [dialogueMembers]) (Json.reordered_members _)
  have server : (Value.ofMembers (serverMembers c.server.port flowsDir)).Reordered
      (.object (serverMembers c.server.port flowsDir)) :=
    .listed (by cases flowsDir <;> simp [serverMembers]) (Json.reordered_members _)
  refine ⟨_, .listed (by simp [members]) (.cons (.under _ dialogue) (.cons (.under _ server) .nil)),
    ?_⟩
  cases flowsDir <;> rfl

/-- What is read of the text of settings are the settings. -/
theorem ofToml?_sectionsText (timeout : c.dialogue.requestTimeout < 2 ^ 63)
    (ported : c.server.port < portCount) (dir : c.server.flowsDir = flowsDir.map .text) :
    ofToml? (.ofList (Toml.sectionsText (sections c flowsDir))) = some c := by
  have parsed := Toml.parse?_sectionsText (plain_sections timeout ported flowsDir)
    (show ["dialogue", "server"].Nodup by decide)
  have within : c.dialogue.requestTimeout < 2 ^ 64 := Nat.lt_trans timeout (by decide)
  have decoded := decoderFor_takes tomlUnit within ported dir _ (toDoc_sections c flowsDir)
  rw [ofToml?, Toml.decode?, parsed, Option.bind_some, decoded]
  rfl

end Written

/-! ### Saving -/

/-- Whether settings have a text: the timeout is an integer of TOML, and the folder of flows is a
text where there is one. -/
structure Writable (c : Config) : Prop where
  timeout : c.dialogue.requestTimeout ≤ 2 ^ 63 - 1
  flowsDir : ∃ dir : Option String, c.server.flowsDir = dir.map .text

section Saved

variable {c : Config} {text : String} {fault : Unwritable}

theorem save_of_ok (written : c.toToml = .ok text) (before : Option String) :
    c.save before = (.ok (), some text) := by
  rw [save, written]
  rfl

theorem save_of_error (refused : c.toToml = .error fault) (before : Option String) :
    c.save before = (.error fault, before) := by
  rw [save, refused]
  rfl

theorem loadFrom_some (text : String) : loadFrom (some text) = ofToml? text := rfl

end Saved

/-- **Settings survive saving.** Settings that have a text are saved, whatever characters there are
in it, and the same settings are loaded from the file. Saving any others fails and leaves the file
as it was; of two reasons the timeout is the one that is said. -/
theorem save_spec {c : Config} (ported : c.server.port < portCount) (before : Option String) :
    (c.Writable →
        ∃ text, c.save before = (.ok (), some text) ∧ loadFrom (some text) = some c) ∧
      (¬ c.Writable → c.save before =
        (.error (if c.dialogue.requestTimeout ≤ 2 ^ 63 - 1 then .path else .number), before)) := by
  constructor
  · rintro ⟨timeout, flowsDir, dir⟩
    have fits : c.dialogue.requestTimeout < 2 ^ 63 := by omega
    refine ⟨_, save_of_ok (toToml_eq fits dir) before, ?_⟩
    rw [loadFrom_some]
    exact ofToml?_sectionsText fits ported dir
  · intro unwritable
    by_cases timeout : c.dialogue.requestTimeout ≤ 2 ^ 63 - 1
    · have path : c.toToml = .error .path := by
        have fits : c.dialogue.requestTimeout < 2 ^ 63 := by omega
        rw [toToml, if_pos (Toml.fits_natCast.mpr fits)]
        rcases folder : c.server.flowsDir with _ | ⟨dir⟩ | ⟨bytes, illFormed⟩
        · exact absurd ⟨timeout, none, folder⟩ unwritable
        · exact absurd ⟨timeout, some dir, folder⟩ unwritable
        · rfl
      rw [if_pos timeout]
      exact save_of_error path before
    · have number : c.toToml = .error .number := by
        have large : ¬ c.dialogue.requestTimeout < 2 ^ 63 := by omega
        rw [toToml, if_neg (mt Toml.fits_natCast.mp large)]
      rw [if_neg timeout]
      exact save_of_error number before

/-- Three quotes, three apostrophes, a backslash, a line end and a control character; and a folder
with a byte that is in no text. -/
theorem save_spec_of_marks :
    let c : Config := ⟨⟨"\"\"\"'''\\\n\x01é", 2 ^ 63 - 1, .debrief⟩, ⟨65535, some (.text "it's")⟩⟩
    let lost : Config := { c with server := ⟨65535, some (.bytes [0xff] (by decide))⟩ }
    let text := "[dialogue]\nbase_url = \"\"\"\n\"\"\\\"'''\\\\\n\\u0001é\"\"\"\n" ++
      "request_timeout_secs = 9223372036854775807\ndefault_tool = \"debrief\"\n\n" ++
      "[server]\nport = 65535\nflows_dir = \"it's\"\n"
    c.server.port < portCount ∧ c.Writable ∧ c.save none = (.ok (), some text) ∧
      loadFrom (some text) = some c ∧
      ¬ lost.Writable ∧ lost.save (some text) = (.error .path, some text) := by
  intro c lost text
  have ported : c.server.port < portCount := by decide
  have writable : c.Writable := ⟨Nat.le_refl _, some "it's", rfl⟩
  have unwritable : ¬ lost.Writable := by
    rintro ⟨-, dir, same⟩
    cases dir <;> cases same
  have written : c.save none = (.ok (), some text) := by decide +kernel
  obtain ⟨saved, result, loaded⟩ := (save_spec ported none).1 writable
  obtain rfl : text = saved := by
    rw [written] at result
    exact Option.some.inj (Prod.mk.inj result).2
  have kept := (save_spec (show lost.server.port < portCount from ported) (some text)).2 unwritable
  rw [if_pos writable.timeout] at kept
  exact ⟨ported, writable, written, loaded, unwritable, kept⟩

end Config
end Counsel
