import Counsel.Query
import Counsel.Session.Key

/-!
Navigation: the tool and axis a workspace is on, and the query string that says so
(`?tool=debrief&axis=team_type`).
-/

namespace Counsel

/-- The tool and axis that are selected. -/
structure Navigation where
  tool : Tool
  axis : Option String
  deriving DecidableEq, Repr

namespace Navigation

/-- The key of the conversations shown here. -/
def key (n : Navigation) : SessionKey := ⟨n.tool, n.axis⟩

/-- The navigation to a key as it stands. -/
def ofKey (key : SessionKey) : Navigation := ⟨key.tool, key.axis⟩

/-- The navigation to a tool and an axis, normalised. -/
def of (tool : Tool) (axis : Option String) : Navigation := ofKey (SessionKey.of tool axis)

/-- The navigation with its parts normalised. -/
def normalise (n : Navigation) : Navigation := of n.tool n.axis

/-- A navigation that normalising leaves as it is. -/
def Normal (n : Navigation) : Prop := n.normalise = n

instance (n : Navigation) : Decidable n.Normal := by
  unfold Normal; infer_instance

/-- Where a workspace starts that is told nothing. -/
def default : Navigation := of .default none

/-- The last value given to a name. -/
def lastValue (name : String) (pairs : List (String × String)) : Option String :=
  pairs.reverse.lookup name

/-- The pairs of a query string that may start with question marks. -/
def queryPairs (query : String) : List (String × String) :=
  Query.parse (query.toList.dropWhile (· = '?'))

/-- Where a query string leads. The last `tool` counts, and the default where there is none or it
is unknown; the last `axis` counts. -/
def ofQuery (query : String) (default : Tool) : Navigation :=
  let pairs := queryPairs query
  let tool := (lastValue "tool" pairs).bind Tool.parse?
  of (tool.getD default) (lastValue "axis" pairs)

/-- The unknown tools a query string names. -/
def unknownTools (query : String) : List String :=
  (queryPairs query).filterMap fun (name, value) =>
    if name = "tool" ∧ (Tool.parse? value).isNone then some value else none

/-- The query string of a navigation. -/
def query (n : Navigation) : String :=
  let axis := match n.axis with
    | some axis => [("axis", axis)]
    | none => []
  .ofList (Query.print (("tool", n.tool.slug) :: axis))

end Navigation
end Counsel
