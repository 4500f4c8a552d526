import Counsel.Proofs.Query
import Counsel.Proofs.Session.Key

/-!
A navigation and its query string say the same (`query_round_trips`). What is written is read back
as it was, and what is read of any query string is normalised, so it is read back too once it is
written again.
-/

namespace Counsel

namespace Navigation

variable {n : Navigation}

theorem ofQuery_normal (query : String) (default : Tool) : (ofQuery query default).Normal :=
  of_normal _ _

/-! ### The query string of a navigation -/

/-- The pairs that a navigation is written as. -/
def pairs (n : Navigation) : List (String × String) :=
  ("tool", n.tool.slug) :: (n.axis.map fun axis => ("axis", axis)).toList

theorem query_eq (n : Navigation) : n.query = .ofList (Query.print n.pairs) := by
  rw [query, pairs]
  cases n.axis <;> rfl

/-- A query string starts with the name of a pair, so no question mark of its own is lost. -/
theorem dropWhile_print_pairs (n : Navigation) (marks : Nat) :
    (List.replicate marks '?' ++ Query.print n.pairs).dropWhile (· = '?') =
      Query.print n.pairs := by
  have name : Query.encode "tool".toList = ['t', 'o', 'o', 'l'] := by decide
  obtain ⟨rest, starts⟩ : ∃ rest, Query.print n.pairs = 't' :: rest := by
    rw [Query.print, pairs, List.map_cons, Query.pairChars, name]
    cases n.axis <;> exact ⟨_, rfl⟩
  rw [List.dropWhile_append, starts]
  simp

theorem queryPairs_query (n : Navigation) (marks : Nat) :
    queryPairs (.ofList (List.replicate marks '?') ++ n.query) = n.pairs := by
  rw [queryPairs, query_eq, String.toList_append, String.toList_ofList, String.toList_ofList,
    dropWhile_print_pairs, Query.parse_print]

theorem lastValue_tool (n : Navigation) : lastValue "tool" n.pairs = some n.tool.slug := by
  cases axis : n.axis <;> simp [lastValue, pairs, axis, Dict.lookup_cons]

theorem lastValue_axis (n : Navigation) : lastValue "axis" n.pairs = n.axis := by
  cases axis : n.axis <;> simp [lastValue, pairs, axis]

/-- The query string of a normalised navigation leads to it, whatever question marks stand before
it and whatever the default is. -/
theorem Normal.ofQuery_query (normal : n.Normal) (default : Tool) (marks : Nat) :
    ofQuery (.ofList (List.replicate marks '?') ++ n.query) default = n := by
  simp only [ofQuery, queryPairs_query, lastValue_tool, lastValue_axis, Option.bind_some,
    Tool.parse?_slug, Option.getD_some]
  exact normal

/-- **A navigation and its query string say the same.** The query string of a tool and an axis is
read as the navigation to them, whatever characters the axis has, whatever question marks stand
before it and whatever the default is. What is read of any query string is normalised, and so its
own query string is read as the same. -/
theorem query_round_trips :
    (∀ (tool : Tool) (axis : Option String) (default : Tool) (marks : Nat),
      ofQuery (.ofList (List.replicate marks '?') ++ (of tool axis).query) default =
        of tool axis) ∧
    ∀ (query : String) (default : Tool), (ofQuery query default).Normal ∧
      ∀ other, ofQuery (ofQuery query default).query other = ofQuery query default := by
  refine ⟨fun tool axis => (of_normal tool axis).ofQuery_query, fun query default => ?_⟩
  have normal := ofQuery_normal query default
  exact ⟨normal, fun other => by simpa using normal.ofQuery_query other 0⟩

end Navigation
end Counsel
