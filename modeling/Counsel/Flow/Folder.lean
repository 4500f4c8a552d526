import Counsel.Flow.Builtin
import Counsel.Text.Utf8
import Counsel.Toml.Document

/-!
Flows from files: the definition of a flow in a TOML text, and all the definitions of a folder.

A folder is what a listing of it gives: names in any order, each with bytes or with a folder of its
own. A listing may break off.
-/

namespace Counsel

/-- What stands under a name in a folder. -/
inductive FileContent where
  | bytes (data : List UInt8)
  | folder
  deriving DecidableEq, Repr

/-- A folder as it is listed. -/
abbrev Folder := List (String × FileContent)

/-- What comes of listing a folder: its entries in the order in which they come, and whether the
listing gets to its end. It breaks off where the system fails. -/
structure Listing where
  entries : Folder
  ends : Bool
  deriving DecidableEq, Repr

/-- The listing of a folder; one that is not there breaks off at once. -/
def Listing.of : Option Folder → Listing
  | some folder => ⟨folder, true⟩
  | none => ⟨[], false⟩

/-- Why flows cannot be loaded. -/
inductive LoadError where
  | unreadable
  /-- The text of this name defines no flow. -/
  | invalid (name : String)
  deriving DecidableEq, Repr

/-! ### Names of files -/

/-- The last part of a path, unless it leads upwards or there is none. -/
def lastPart? (path : String) : Option (List Char) :=
  let parts := (Text.splitAtMark '/' path.toList).filter fun p => p ≠ [] && p ≠ ['.']
  parts.getLast?.filter (· ≠ ['.', '.'])

/-- A name without its extension, and the extension; a dot at the start begins none. -/
def splitExtension (name : List Char) : List Char × Option (List Char) :=
  let extension := (name.reverse.takeWhile (· ≠ '.')).reverse
  let stem := name.take (name.length - extension.length - 1)
  if extension.length = name.length ∨ stem = [] then (name, none) else (stem, some extension)

/-- The name of a file without its folder and its extension. -/
def fileStem (path : String) : String :=
  match lastPart? path with
  | some name => .ofList (splitExtension name).1
  | none => path

/-- Whether a file is one that defines a flow. -/
def definesFlow (name : String) : Bool :=
  ((lastPart? name).bind fun part => (splitExtension part).2) = some "toml".toList

/-! ### Loading -/

namespace Flow

/-- The flow that a TOML text defines. One without a name is called after its file. -/
def parse (name text : String) : Except LoadError Flow :=
  match Toml.decode? decoder text with
  | some f => .ok (if f.id = "" then { f with id := fileStem name } else f)
  | none => .error (.invalid name)

/-- The flow in a file. -/
def ofFile (path : String) : FileContent → Except LoadError Flow
  | .folder => .error .unreadable
  | .bytes data =>
      match Text.Utf8.decode? data with
      | some text => parse path (.ofList text)
      | none => .error .unreadable

end Flow

/-- The path of a name in a folder. -/
def pathIn (folder name : String) : String :=
  if folder.toList.getLast? = some '/' then folder ++ name else folder ++ "/" ++ name

namespace Registry

/-- Loads the flows of a folder one after the other, up to the first that cannot be loaded; the
flows before it stay. With the registry comes how many were loaded. -/
def loadFolder (path : String) (r : Registry) :
    Folder → Registry × Except LoadError Nat
  | [] => (r, .ok 0)
  | (name, content) :: rest =>
      if definesFlow name then
        match Flow.ofFile (pathIn path name) content with
        | .error e => (r, .error e)
        | .ok f =>
            let (r, loaded) := loadFolder path (r.insert f) rest
            (r, loaded.map (· + 1))
      else loadFolder path r rest

/-- Loads the flows of a listing as far as it goes. -/
def load (path : String) (r : Registry) (listing : Listing) : Registry × Except LoadError Nat :=
  match loadFolder path r listing.entries with
  | (r, .ok n) => (r, if listing.ends then .ok n else .error .unreadable)
  | (r, .error e) => (r, .error e)

/-- What is noted of the flows of a folder that are loaded. -/
def loadFolderNotes (path : String) : Folder → List Log.Note
  | [] => []
  | (name, content) :: rest =>
      if definesFlow name then
        match Flow.ofFile (pathIn path name) content with
        | .error _ => []
        | .ok f =>
            ⟨.debug, .flow, "Loaded flow '" ++ f.id ++ "' from " ++ pathIn path name⟩ ::
              loadFolderNotes path rest
      else loadFolderNotes path rest

end Registry
end Counsel
