import Counsel.Proofs.Text.Blank
import Counsel.Service.Router
import Mathlib.Data.List.Sort

/-!
Loading the flows of a folder.

The files of a folder are loaded one after the other, in the order in which the folder is listed
(`flowsIn`), and a flow takes the place of one of its name. So what stands under a name is the last
flow loaded under it (`latest`), and what stood there before if there is none. `Loadable` says that
every file that is to define a flow does, and `Listing.FailsAfter` where and why loading a listing
fails.

* `failed_load_keeps_earlier`: what a registry holds when loading fails.
* `listing_order_matters_iff`: the order of a listing matters exactly if two files define different
  flows under one name.
-/

namespace Counsel

/-! ### Names of files -/

/-- A name has no dot, or a last one. -/
theorem split_last_dot (name : List Char) :
    name.rtakeWhile (· ≠ '.') = name ∨ ∃ stem, name = stem ++ '.' :: name.rtakeWhile (· ≠ '.') := by
  have whole := List.rdropWhile_append_rtakeWhile (p := (· ≠ '.')) (l := name)
  by_cases empty : name.rdropWhile (· ≠ '.') = []
  · rw [empty, List.nil_append] at whole
    exact Or.inl whole
  · have dot : (name.rdropWhile (· ≠ '.')).getLast empty = '.' := by
      simpa using List.rdropWhile_last_not (· ≠ '.') name empty
    have ends := List.dropLast_append_getLast empty
    rw [dot] at ends
    exact Or.inr ⟨_, by rw [List.append_cons, ends, whole]⟩

/-- A name with an extension is its stem, a dot and the extension. -/
theorem splitExtension_eq_some {name extension : List Char}
    (split : (splitExtension name).2 = some extension) :
    name = (splitExtension name).1 ++ '.' :: extension := by
  have tail : (name.reverse.takeWhile (· ≠ '.')).reverse = name.rtakeWhile (· ≠ '.') := rfl
  simp only [splitExtension, tail] at split ⊢
  rcases split_last_dot name with all | ⟨stem, whole⟩
  · rw [if_pos (Or.inl (congrArg List.length all))] at split
    cases split
  · generalize name.rtakeWhile (· ≠ '.') = tail at split whole ⊢
    have cut : name.take (name.length - tail.length - 1) = stem := by
      have length : name.length - tail.length - 1 = stem.length := by
        rw [whole, List.length_append, List.length_cons]
        omega
      rw [length, whole, List.take_left]
    rw [cut] at split ⊢
    split at split
    · cases split
    · rename_i named
      rw [if_neg named]
      obtain rfl : tail = extension := Option.some.inj split
      exact whole

theorem toList_pathIn (folder name : String) :
    ∃ front, (pathIn folder name).toList = front ++ '/' :: name.toList := by
  unfold pathIn
  split
  · rename_i slash
    obtain ⟨front, whole⟩ := List.getLast?_eq_some_iff.mp slash
    exact ⟨front, by rw [String.toList_append, whole, List.append_assoc]; rfl⟩
  · refine ⟨folder.toList, ?_⟩
    rw [String.toList_append, String.toList_append, List.append_assoc]
    rfl

/-- The last part of the path of a name in a folder is the name. -/
theorem lastPart?_of_name {name : String} {part : List Char} (plain : '/' ∉ name.toList)
    (last : lastPart? name = some part) :
    part = name.toList ∧ ∀ folder, lastPart? (pathIn folder name) = some part := by
  have one : Text.splitAtMark '/' name.toList = [name.toList] := by
    rw [Text.splitAtMark_eq_splitOn, List.splitOn_eq_singleton plain]
  simp only [lastPart?, one] at last
  have kept : [name.toList].filter (fun p => p ≠ [] && p ≠ ['.']) = [name.toList] := by
    refine List.filter_eq_self.mpr fun p member => ?_
    by_contra gone
    obtain rfl := List.mem_singleton.mp member
    have nothing : [name.toList].filter (fun p => p ≠ [] && p ≠ ['.']) = [] :=
      List.filter_cons_of_neg gone
    rw [nothing] at last
    cases last
  rw [kept] at last
  obtain ⟨same, -⟩ := Option.filter_eq_some_iff.mp last
  refine ⟨(Option.some.inj same).symm, fun folder => ?_⟩
  obtain ⟨front, whole⟩ := toList_pathIn folder name
  simp only [lastPart?]
  rw [whole, Text.splitAtMark_eq_splitOn, List.splitOn_append_cons_self,
    List.splitOn_eq_singleton plain, List.filter_append, kept, List.getLast?_append]
  exact last

/-- A file that defines a flow is called by its stem and the extension of such files. -/
theorem name_eq_fileStem {folder name : String} (plain : '/' ∉ name.toList)
    (defines : definesFlow name = true) : name = fileStem (pathIn folder name) ++ ".toml" := by
  have extension := of_decide_eq_true defines
  obtain ⟨part, last, split⟩ := Option.bind_eq_some_iff.mp extension
  obtain ⟨same, inFolder⟩ := lastPart?_of_name plain last
  rw [fileStem, inFolder folder, ← String.toList_inj, String.toList_append, String.toList_ofList,
    ← same]
  exact splitExtension_eq_some split

/-! ### What stands under a name -/

namespace Dict

variable {α : Type} {a b : Dict α}

/-- Dictionaries with the same under every key are the same. -/
theorem ext_get? (same : ∀ key, a.get? key = b.get? key) : a = b := by
  refine ext (a.sorted.eq_of_mem_iff b.sorted fun entry => ?_)
  rw [← get?_eq_some_iff, ← get?_eq_some_iff, same]

theorem mem_keys_iff {d : Dict α} {key : String} : key ∈ d.keys ↔ (d.get? key).isSome = true := by
  constructor
  · intro member
    obtain ⟨entry, there, rfl⟩ := List.mem_map.mp member
    exact Option.isSome_iff_exists.mpr ⟨entry.2, get?_eq_some_iff.mpr there⟩
  · intro some
    obtain ⟨value, found⟩ := Option.isSome_iff_exists.mp some
    exact mem_keys_of_get? found

/-- Dictionaries with something under the same keys list the same keys. -/
theorem keys_congr (same : ∀ key, (a.get? key).isSome = (b.get? key).isSome) : a.keys = b.keys := by
  have ascends (d : Dict α) : d.keys.Pairwise (· < ·) := List.pairwise_map.mpr d.sorted
  refine (ascends a).eq_of_mem_iff (ascends b) fun key => ?_
  rw [mem_keys_iff, mem_keys_iff, same]

end Dict

/-- The last of some flows under a name. -/
def latest (flows : List Flow) (id : String) : Option Flow := (flows.filter (·.id = id)).getLast?

theorem latest_eq_none_iff {flows : List Flow} {id : String} :
    latest flows id = none ↔ ∀ f ∈ flows, f.id ≠ id := by
  simp [latest]

theorem latest_eq_some {flows : List Flow} {id : String} {f : Flow}
    (last : latest flows id = some f) : f ∈ flows ∧ f.id = id := by
  have member := List.mem_filter.mp (List.mem_of_getLast? last)
  exact ⟨member.1, of_decide_eq_true member.2⟩

theorem latest_concat (flows : List Flow) (f : Flow) : latest (flows ++ [f]) f.id = some f := by
  rw [latest, List.filter_append, List.filter_cons_of_pos (by simp), List.filter_nil,
    List.getLast?_concat]

/-- Whether there is a flow under a name does not depend on the order. -/
theorem isSome_latest_perm {flows others : List Flow} (order : flows.Perm others) (id : String) :
    (latest flows id).isSome = (latest others id).isSome := by
  rw [Bool.eq_iff_iff, Option.isSome_iff_ne_none, Option.isSome_iff_ne_none, ne_eq, ne_eq,
    latest_eq_none_iff, latest_eq_none_iff]
  exact not_congr (forall_congr' fun f => imp_congr_left order.mem_iff)

/-- Which flow is the last under a name does not depend on the order, if only one has the name. -/
theorem latest_perm {flows others : List Flow} {id : String} (order : flows.Perm others)
    (agree : ∀ f ∈ flows, ∀ g ∈ flows, f.id = id → g.id = id → f = g) :
    latest flows id = latest others id := by
  have both := isSome_latest_perm order id
  cases last : latest flows id with
  | none =>
      rw [last] at both
      exact (Option.not_isSome_iff_eq_none.mp (both ▸ Bool.false_ne_true)).symm
  | some f =>
      rw [last] at both
      obtain ⟨g, last'⟩ := Option.isSome_iff_exists.mp both.symm
      obtain ⟨member, name⟩ := latest_eq_some last
      obtain ⟨member', name'⟩ := latest_eq_some last'
      rw [last', agree f member g (order.mem_iff.mpr member') name name']

namespace Registry

variable {r r' : Registry}

theorem ext_get? (same : ∀ id, r.get? id = r'.get? id) : r = r' :=
  congrArg Registry.mk (Dict.ext_get? same)

/-- Flows added one after the other. -/
def insertAll (r : Registry) (flows : List Flow) : Registry := flows.foldl insert r

/-- Under a name stands the last flow added under it, or what stood there before. -/
theorem get?_insertAll (r : Registry) (flows : List Flow) (id : String) :
    (r.insertAll flows).get? id = (latest flows id).or (r.get? id) := by
  induction flows generalizing r with
  | nil => rfl
  | cons f flows ih =>
      have added : (r.insert f).get? id = if id = f.id then some f else r.get? id :=
        Dict.get?_insert r.flows f.id id f
      have rest : (r.insertAll (f :: flows)).get? id =
          (latest flows id).or ((r.insert f).get? id) := ih (r.insert f)
      rw [rest, added, latest, latest]
      by_cases same : id = f.id
      · rw [if_pos same, List.filter_cons_of_pos (by simpa using same.symm), List.getLast?_cons]
        cases (flows.filter (·.id = id)).getLast? <;> rfl
      · rw [if_neg same, List.filter_cons_of_neg (by simpa using Ne.symm same)]

end Registry

/-! ### Loading -/

/-- The flow that an entry of a folder defines, if it is a file that defines one. -/
def Flow.ofEntry? (path : String) (entry : String × FileContent) : Option Flow :=
  if definesFlow entry.1 then (Flow.ofFile (pathIn path entry.1) entry.2).toOption else none

/-- The flows that the files of a folder define, in the order of the listing. -/
def flowsIn (path : String) (folder : Folder) : List Flow := folder.filterMap (Flow.ofEntry? path)

/-- Every file of a folder that is to define a flow can be read and defines one. -/
def Loadable (path : String) (folder : Folder) : Prop :=
  ∀ entry ∈ folder, definesFlow entry.1 = true →
    ∃ f, Flow.ofFile (pathIn path entry.1) entry.2 = .ok f

instance (path : String) (folder : Folder) : Decidable (Loadable path folder) :=
  decidable_of_iff
    (∀ entry ∈ folder, definesFlow entry.1 = true →
      (Flow.ofFile (pathIn path entry.1) entry.2).toOption.isSome = true)
    (forall₂_congr fun entry _ => imp_congr_right fun _ => by
      cases Flow.ofFile (pathIn path entry.1) entry.2 <;> simp [Except.toOption])

/-- Where and why loading a listing fails: at a file after some entries, which cannot be read or
defines no flow, or where the listing breaks off after these entries. -/
inductive Listing.FailsAfter (path : String) (before : Folder) : Listing → LoadError → Prop
  | file {name : String} {content : FileContent} {after : Folder} {ends : Bool} {e : LoadError}
      (defines : definesFlow name = true)
      (bad : Flow.ofFile (pathIn path name) content = .error e) :
      FailsAfter path before ⟨before ++ (name, content) :: after, ends⟩ e
  | listing : FailsAfter path before ⟨before, false⟩ .unreadable

section Entry

variable {path name : String} {content : FileContent} {f : Flow} {e : LoadError}
  {folder before after : Folder}

theorem Flow.ofEntry?_of_other (other : definesFlow name = false) :
    Flow.ofEntry? path (name, content) = none := by
  rw [Flow.ofEntry?, other]
  rfl

theorem Flow.ofEntry?_eq_some_iff : Flow.ofEntry? path (name, content) = some f ↔
    definesFlow name = true ∧ Flow.ofFile (pathIn path name) content = .ok f := by
  rw [Flow.ofEntry?]
  split
  · rename_i defines
    cases Flow.ofFile (pathIn path name) content <;> simp [defines, Except.toOption]
  · rename_i other
    simp [other]

/-- The same files define the same flows in another order. -/
theorem flowsIn_perm {order : Folder} (perm : order.Perm folder) :
    (flowsIn path order).Perm (flowsIn path folder) := perm.filterMap _

/-- A folder that can be loaded has as many flows as files that define one. -/
theorem length_flowsIn (loadable : Loadable path folder) :
    (flowsIn path folder).length = folder.countP fun entry => definesFlow entry.1 := by
  rw [flowsIn, List.length_filterMap_eq_countP]
  refine List.countP_congr fun entry member => ?_
  cases defines : definesFlow entry.1 with
  | false => rw [Flow.ofEntry?_of_other defines]; rfl
  | true =>
      obtain ⟨f, read⟩ := loadable entry member defines
      rw [Flow.ofEntry?_eq_some_iff.mpr ⟨defines, read⟩]
      simp

/-- Whether a folder can be loaded does not depend on the order. -/
theorem Loadable.perm (loadable : Loadable path folder) {order : Folder}
    (perm : order.Perm folder) : Loadable path order :=
  fun entry member => loadable entry (perm.mem_iff.mp member)

/-- Every flow of a folder is the last under its name in some order of the listing. -/
theorem exists_order_latest (member : f ∈ flowsIn path folder) :
    ∃ order, order.Perm folder ∧ latest (flowsIn path order) f.id = some f := by
  obtain ⟨entry, there, defined⟩ := List.mem_filterMap.mp member
  obtain ⟨before, after, rfl⟩ := List.append_of_mem there
  refine ⟨before ++ after ++ [entry], ?_, ?_⟩
  · exact (List.perm_append_singleton entry _).trans List.perm_middle.symm
  · rw [flowsIn, List.filterMap_append, List.filterMap_cons_some defined, List.filterMap_nil]
    exact latest_concat _ f

/-- A file defines the flow that its text means, and gives it its name if it has none. -/
theorem Flow.ofFile_eq_ok_iff : Flow.ofFile path content = .ok f ↔
    ∃ data text definition, content = .bytes data ∧ Text.Utf8.decode? data = some text ∧
      Toml.decode? Flow.decoder (.ofList text) = some definition ∧
      f = if definition.id = "" then { definition with id := fileStem path } else definition := by
  constructor
  · intro read
    cases content with
    | folder => cases read
    | bytes data =>
        rw [Flow.ofFile] at read
        split at read
        · rename_i text decoded
          rw [Flow.parse] at read
          split at read
          · rename_i definition means
            exact ⟨data, text, definition, rfl, decoded, means, (Except.ok.inj read).symm⟩
          · cases read
        · cases read
  · rintro ⟨data, text, definition, rfl, decoded, means, rfl⟩
    simp only [Flow.ofFile, decoded, Flow.parse, means]

/-- The flows that are defined in a folder: each as the text of a file has it, under its own name
or, if it has none, under that of the file. -/
inductive DefinedIn (folder : Folder) : Flow → Prop
  | named {name : String} {data : List UInt8} {text : List Char} {f : Flow}
      (there : (name, .bytes data) ∈ folder) (decoded : Text.Utf8.decode? data = some text)
      (means : Toml.decode? Flow.decoder (.ofList text) = some f) (own : f.id ≠ "") :
      DefinedIn folder f
  | unnamed {stem : String} {data : List UInt8} {text : List Char} {f : Flow}
      (there : (stem ++ ".toml", .bytes data) ∈ folder)
      (decoded : Text.Utf8.decode? data = some text)
      (means : Toml.decode? Flow.decoder (.ofList text) = some f) (nameless : f.id = "") :
      DefinedIn folder { f with id := stem }

theorem definedIn_of_mem (plain : ∀ entry ∈ folder, '/' ∉ entry.1.toList)
    (member : f ∈ flowsIn path folder) : DefinedIn folder f := by
  obtain ⟨⟨name, content⟩, there, defined⟩ := List.mem_filterMap.mp member
  obtain ⟨defines, read⟩ := Flow.ofEntry?_eq_some_iff.mp defined
  obtain ⟨data, text, definition, rfl, decoded, means, rfl⟩ := Flow.ofFile_eq_ok_iff.mp read
  split
  · rename_i nameless
    have called : name = fileStem (pathIn path name) ++ ".toml" :=
      name_eq_fileStem (plain _ there) defines
    rw [called] at there
    exact .unnamed there decoded means nameless
  · rename_i own
    exact .named there decoded means own

/-- A listing can be loaded, or it fails after entries that can be. -/
theorem loadable_or_fails (path : String) (l : Listing) :
    (Loadable path l.entries ∧ l.ends = true) ∨
      ∃ before e, Loadable path before ∧ l.FailsAfter path before e := by
  obtain ⟨entries, ends⟩ := l
  -- The entries so far can be loaded; the induction goes along those that are left.
  suffices step : ∀ before, Loadable path before →
      (Loadable path (before ++ entries) ∧ ends = true) ∨
        ∃ before' e, Loadable path before' ∧
          Listing.FailsAfter path before' ⟨before ++ entries, ends⟩ e by
    simpa using step [] (by simp [Loadable])
  induction entries with
  | nil =>
      intro before loadable
      rw [List.append_nil]
      cases ends with
      | true => exact Or.inl ⟨loadable, rfl⟩
      | false => exact Or.inr ⟨before, _, loadable, .listing⟩
  | cons entry entries ih =>
      intro before loadable
      have next (first : definesFlow entry.1 = true →
          ∃ f, Flow.ofFile (pathIn path entry.1) entry.2 = .ok f) :
          Loadable path (before ++ [entry]) :=
        List.forall_mem_append.mpr ⟨loadable, List.forall_mem_singleton.mpr first⟩
      rw [List.append_cons]
      cases defines : definesFlow entry.1 with
      | false => exact ih _ (next fun so => absurd so (by simp [defines]))
      | true =>
          cases read : Flow.ofFile (pathIn path entry.1) entry.2 with
          | ok f => exact ih _ (next fun _ => ⟨f, read⟩)
          | error e =>
              rw [← List.append_cons]
              exact Or.inr ⟨before, e, loadable, .file defines read⟩

end Entry

namespace Registry

variable {r r' : Registry} {path name : String} {content : FileContent} {l : Listing}
  {before folder : Folder} {e : LoadError}

theorem loadFolder_of_other (other : definesFlow name = false) :
    r.loadFolder path ((name, content) :: folder) = r.loadFolder path folder := by
  rw [loadFolder, if_neg (by simp [other])]

theorem loadFolder_of_bad (defines : definesFlow name = true)
    (bad : Flow.ofFile (pathIn path name) content = .error e) :
    r.loadFolder path ((name, content) :: folder) = (r, .error e) := by
  rw [loadFolder, if_pos defines, bad]

/-- What comes of loading some files when `n` were loaded before. -/
def counting (n : Nat) (result : Registry × Except LoadError Nat) :
    Registry × Except LoadError Nat :=
  (result.1, result.2.map (· + n))

theorem loadFolder_of_file {f : Flow} (defines : definesFlow name = true)
    (read : Flow.ofFile (pathIn path name) content = .ok f) :
    r.loadFolder path ((name, content) :: folder) =
      counting 1 ((r.insert f).loadFolder path folder) := by
  rw [loadFolder, if_pos defines, read]
  rfl

theorem counting_zero (result : Registry × Except LoadError Nat) : counting 0 result = result := by
  obtain ⟨r, _ | n⟩ := result <;> rfl

theorem counting_counting (m n : Nat) (result : Registry × Except LoadError Nat) :
    counting m (counting n result) = counting (n + m) result := by
  obtain ⟨r, _ | k⟩ := result
  · rfl
  · show (r, Except.ok (k + n + m)) = (r, Except.ok (k + (n + m)))
    rw [Nat.add_assoc]

/-- Once some entries are loaded, their flows are added and the other entries are left. -/
theorem loadFolder_append (loadable : Loadable path before) (r : Registry) (after : Folder) :
    r.loadFolder path (before ++ after) = counting (flowsIn path before).length
      ((r.insertAll (flowsIn path before)).loadFolder path after) := by
  induction before generalizing r with
  | nil => exact (counting_zero _).symm
  | cons entry before ih =>
      obtain ⟨name, content⟩ := entry
      obtain ⟨first, rest⟩ := List.forall_mem_cons.mp loadable
      rw [List.cons_append, flowsIn]
      cases defines : definesFlow name with
      | false =>
          rw [loadFolder_of_other defines,
            List.filterMap_cons_none (Flow.ofEntry?_of_other defines)]
          exact ih rest r
      | true =>
          obtain ⟨f, read⟩ := first defines
          rw [loadFolder_of_file defines read, ih rest (r.insert f), counting_counting,
            List.filterMap_cons_some (Flow.ofEntry?_eq_some_iff.mpr ⟨defines, read⟩)]
          rfl

/-- A listing that can be loaded is: its flows are added, and counted. -/
theorem load_of_loadable (loadable : Loadable path folder) (r : Registry) :
    r.load path ⟨folder, true⟩ =
      (r.insertAll (flowsIn path folder), .ok (flowsIn path folder).length) := by
  have loaded := loadFolder_append loadable r []
  rw [List.append_nil, loadFolder, counting, Except.map, Nat.zero_add] at loaded
  rw [load, loaded]
  rfl

/-- A listing that fails after some entries leaves their flows. -/
theorem load_of_fails (loadable : Loadable path before) (fails : l.FailsAfter path before e)
    (r : Registry) : r.load path l = (r.insertAll (flowsIn path before), .error e) := by
  cases fails with
  | @file name content after _ _ defines bad =>
      have failed := loadFolder_append loadable r ((name, content) :: after)
      rw [loadFolder_of_bad defines bad, counting, Except.map] at failed
      rw [load, failed]
  | listing =>
      have loaded := loadFolder_append loadable r []
      rw [List.append_nil, loadFolder, counting, Except.map] at loaded
      rw [load, loaded]
      rfl

/-- Loading fails exactly where the listing does, and the flows before it stay. -/
theorem load_eq_error_iff :
    r.load path l = (r', .error e) ↔
      ∃ before, Loadable path before ∧ l.FailsAfter path before e ∧
        r' = r.insertAll (flowsIn path before) := by
  constructor
  · intro failed
    rcases loadable_or_fails path l with ⟨loadable, ends⟩ | ⟨before, e', loadable, fails⟩
    · obtain ⟨entries, ends⟩ := l
      subst ends
      rw [load_of_loadable loadable] at failed
      cases failed
    · rw [load_of_fails loadable fails] at failed
      cases failed
      exact ⟨before, loadable, fails, rfl⟩
  · rintro ⟨before, loadable, fails, rfl⟩
    exact load_of_fails loadable fails r

/-- **A failed load keeps what came before.** If loading fails, then at some entry in the order of
the listing, or where that breaks off; the entries before it could be loaded. Under a name stands
the last flow that these define, or what stood there before, so all is as before exactly if their
flows had been there. No service starts with flows that were loaded so. -/
theorem failed_load_keeps_earlier (failed : r.load path l = (r', .error e)) :
    ∃ before, Loadable path before ∧ l.FailsAfter path before e ∧
      (∀ id, r'.get? id = (latest (flowsIn path before) id).or (r.get? id)) ∧
      (r' = r ↔ ∀ id f, latest (flowsIn path before) id = some f → r.get? id = some f) ∧
      (r = Builtin.registry → Service.flowsFor (some (path, l)) = .error e) := by
  obtain ⟨before, loadable, fails, rfl⟩ := load_eq_error_iff.mp failed
  have stands := r.get?_insertAll (flowsIn path before)
  refine ⟨before, loadable, fails, stands, ⟨fun same id f last => ?_, fun there => ?_⟩, ?_⟩
  · rw [← same, stands, last]
    rfl
  · refine ext_get? fun id => ?_
    rw [stands]
    cases last : latest (flowsIn path before) id with
    | none => rfl
    | some f => exact (there id f last).symm
  · rintro rfl
    rw [Service.flowsFor, failed]

/-- The flow of a file that is listed before an invalid one, with what a failed load leaves. -/
theorem failed_load_keeps_earlier_of_two :
    let text : FileContent := .bytes (Text.Utf8.encode "start='a'\nnodes={}".toList)
    let l : Listing := ⟨[("a.toml", text), ("notes.txt", .folder), ("b.toml", .bytes [])], true⟩
    let r' : Registry := .ofFlows [⟨"a", "a", .empty⟩]
    empty.load "flows" l = (r', .error (.invalid "flows/b.toml")) ∧
      ∃ before, Loadable "flows" before ∧ l.FailsAfter "flows" before (.invalid "flows/b.toml") ∧
        ∀ id, r'.get? id = (latest (flowsIn "flows" before) id).or (empty.get? id) := by
  intro text l r'
  have failed : empty.load "flows" l = (r', .error (.invalid "flows/b.toml")) := by
    decide +kernel
  obtain ⟨before, loadable, fails, stands, -⟩ := failed_load_keeps_earlier failed
  exact ⟨failed, before, loadable, fails, stands⟩

/-- Loading fails at an invalid file, and the flow listed before it is there. -/
theorem failed_load_leaves_flow :
    let text : FileContent := .bytes (Text.Utf8.encode "start='a'\nnodes={}".toList)
    let result := empty.load "flows" ⟨[("a.toml", text), ("b.toml", .bytes [])], true⟩
    result.2 = .error (.invalid "flows/b.toml") ∧ result.1 ≠ empty := by
  decide +kernel

/-! ### The order of a listing -/

theorem get?_load (loadable : Loadable path folder) (r : Registry) (id : String) :
    (r.load path ⟨folder, true⟩).1.get? id =
      (latest (flowsIn path folder) id).or (r.get? id) := by
  rw [load_of_loadable loadable, get?_insertAll]

/-- What stands under a name does not depend on the order of the listing exactly if no two files
define different flows under it. -/
theorem get?_load_order_iff (loadable : Loadable path folder) (r : Registry) (id : String) :
    (∀ order, order.Perm folder →
      (r.load path ⟨order, true⟩).1.get? id = (r.load path ⟨folder, true⟩).1.get? id) ↔
    ∀ f ∈ flowsIn path folder, ∀ g ∈ flowsIn path folder, f.id = id → g.id = id → f = g := by
  constructor
  · intro same
    -- Each of two flows is the last one in some order.
    have last (f : Flow) (member : f ∈ flowsIn path folder) (name : f.id = id) :
        (r.load path ⟨folder, true⟩).1.get? id = some f := by
      obtain ⟨order, perm, last⟩ := exists_order_latest member
      rw [← same order perm, get?_load (loadable.perm perm), ← name, last]
      rfl
    intro f member g member' name name'
    exact Option.some.inj ((last f member name).symm.trans (last g member' name'))
  · intro agree order perm
    rw [get?_load (loadable.perm perm), get?_load loadable,
      ← latest_perm (flowsIn_perm perm).symm agree]

/-- **The order of a listing matters exactly if two files define different flows under one name.**
A folder whose files can all be loaded is, in whatever order it is listed: as many flows are
counted, and the same names are known. Under a name stands the last flow of the listing that is
defined under it, in the place of what stood there before. It is the same flow in all orders if and
only if no two files define different flows under the name, so the registry is the same if and only
if this is so of every name. A flow is called by its definition, or like its file. -/
theorem listing_order_matters_iff (loadable : Loadable path folder) (r : Registry) :
    let loaded (order : Folder) := r.load path ⟨order, true⟩
    (∀ order, order.Perm folder →
      (loaded order).2 = .ok (folder.countP fun entry => definesFlow entry.1) ∧
      (loaded order).1.ids = (loaded folder).1.ids ∧
      ∀ id, (loaded order).1.get? id = (latest (flowsIn path order) id).or (r.get? id)) ∧
    (∀ id, (∀ order, order.Perm folder → (loaded order).1.get? id = (loaded folder).1.get? id) ↔
      ∀ f ∈ flowsIn path folder, ∀ g ∈ flowsIn path folder, f.id = id → g.id = id → f = g) ∧
    ((∀ order, order.Perm folder → (loaded order).1 = (loaded folder).1) ↔
      ∀ f ∈ flowsIn path folder, ∀ g ∈ flowsIn path folder, f.id = g.id → f = g) ∧
    ((∀ entry ∈ folder, '/' ∉ entry.1.toList) →
      ∀ f ∈ flowsIn path folder, DefinedIn folder f) := by
  intro loaded
  have each := get?_load_order_iff loadable r
  refine ⟨fun order perm => ⟨?_, ?_, get?_load (loadable.perm perm) r⟩, each, ⟨?_, ?_⟩, ?_⟩
  · show (r.load path ⟨order, true⟩).2 = _
    rw [load_of_loadable (loadable.perm perm), length_flowsIn (loadable.perm perm), perm.countP_eq]
  · refine Dict.keys_congr fun id => ?_
    show ((loaded order).1.get? id).isSome = ((loaded folder).1.get? id).isSome
    rw [get?_load (loadable.perm perm), get?_load loadable, Option.isSome_or, Option.isSome_or,
      isSome_latest_perm (flowsIn_perm perm)]
  · intro same f member g member' name
    refine (each f.id).mp (fun order perm => ?_) f member g member' rfl name.symm
    exact congrArg (·.get? f.id) (same order perm)
  · intro agree order perm
    refine ext_get? fun id => (each id).mpr (fun f member g member' name name' => ?_) order perm
    exact agree f member g member' (name.trans name'.symm)
  · exact fun plain f member => definedIn_of_mem plain member

/-- A file in the place of a built-in flow, one without a name of its own, and one of no account. -/
theorem listing_order_matters_iff_of_three :
    let text (s : String) : FileContent := .bytes (Text.Utf8.encode s.toList)
    let folder : Folder := [("fast.toml", text "id='how_fast'\nstart='a'\nnodes={}"),
      ("a.toml", text "start='a'\nnodes={}"), ("notes.txt", .bytes [0xff])]
    Loadable "flows" folder ∧
      ∀ order, order.Perm folder →
        (Builtin.registry.load "flows" ⟨order, true⟩).1 =
          (Builtin.registry.load "flows" ⟨folder, true⟩).1 := by
  intro text folder
  have loadable : Loadable "flows" folder := by decide +kernel
  have agree : ∀ f ∈ flowsIn "flows" folder, ∀ g ∈ flowsIn "flows" folder, f.id = g.id → f = g := by
    decide +kernel
  exact ⟨loadable, (listing_order_matters_iff loadable Builtin.registry).2.2.1.mpr agree⟩

/-- Two valid files that define different flows under one name, listed one way and the other. -/
theorem listing_order_decides :
    let text (s : String) : FileContent := .bytes (Text.Utf8.encode s.toList)
    let folder : Folder := [("a.toml", text "id='x'\nstart='a'\nnodes={}"),
      ("b.toml", text "id='x'\nstart='b'\nnodes={}")]
    Loadable "flows" folder ∧ folder.reverse.Perm folder ∧
      (empty.load "flows" ⟨folder, true⟩).1 ≠ (empty.load "flows" ⟨folder.reverse, true⟩).1 := by
  exact ⟨by decide +kernel, List.reverse_perm _, by decide +kernel⟩

end Registry
end Counsel
