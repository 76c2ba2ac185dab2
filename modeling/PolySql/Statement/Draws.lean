import PolySql.Catalog.Basic

namespace PolySql

-- How many values each column's generator has already given.
structure Draws where
  counts : List (ColumnId × Nat)

namespace Draws

def none : Draws := ⟨[]⟩

def count (s : Draws) (id : ColumnId) : Nat :=
  (s.counts.lookup id).getD 0

def advance (s : Draws) (id : ColumnId) (n : Nat) : Draws :=
  ⟨(id, s.count id + n) :: s.counts.filter (·.1 != id)⟩

end Draws

-- What is made with values from the generators.
abbrev Draft (α : Type) := Draws → Result α × Draws

end PolySql
