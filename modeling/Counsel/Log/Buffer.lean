import Counsel.Log.Entry

/-!
The latest entries of the log, oldest first. There are never more of them than `capacity`.
-/

namespace Counsel.Log

/-- How many entries are kept. -/
def capacity : Nat := 50

/-- The latest entries of the log. -/
structure Buffer where
  entries : List Entry
  bounded : entries.length ≤ capacity

namespace Buffer

def empty : Buffer := ⟨[], by decide⟩

instance : Inhabited Buffer := ⟨empty⟩

/-- Adds an entry; a full buffer loses its oldest. -/
def push (b : Buffer) (e : Entry) : Buffer where
  entries := (b.entries ++ [e]).drop (b.entries.length + 1 - capacity)
  bounded := by
    simp only [List.length_drop, List.length_append, List.length_cons, List.length_nil]
    omega

def length (b : Buffer) : Nat := b.entries.length

def isEmpty (b : Buffer) : Bool := b.entries.isEmpty

end Buffer
end Counsel.Log
