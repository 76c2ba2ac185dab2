import PolySql.Schema.Op
import PolySql.Statement.Update

namespace PolySql

-- SQL that the caller wrote.
structure RawStatement where
  sql : String
  params : List Value
  returnsRows : Bool

inductive Statement
  | select (s : Select)
  | insert (i : Insert)
  | update (u : Update)
  | delete (d : Delete)
  | raw (r : RawStatement)
  | schema (op : SchemaOp)

namespace Context

-- The command of a rendered statement, unless it has more parameters than the dialect takes.
def command (cx : Context) (f : Fragment) : Result Command :=
  let count := f.params.length
  if cx.dialect.maxParameters < count then
    .error (.compilation ("Statement binds " ++ toString count ++ " parameters; " ++
      cx.dialect.name ++ " allows at most " ++ toString cx.dialect.maxParameters))
  else .ok ⟨f.text cx.dialect 0, f.params⟩

end Context

namespace Statement

def compile (cx : Context) : Statement → Result Command
  | select s => do cx.command (← s.render cx)
  | insert i => do cx.command (← i.render cx)
  | update u => do cx.command (← u.render cx)
  | delete d => do cx.command (← d.render cx)
  | raw r => .ok ⟨r.sql, r.params.map cx.dialect.stored⟩
  | schema op => do cx.command (← op.render cx)

def returnsRows : Statement → Bool
  | select _ => true
  | insert i => !i.returning.isEmpty
  | update u => !u.returning.isEmpty
  | delete d => !d.returning.isEmpty
  | raw r => r.returnsRows
  | schema _ => false

-- The types of the columns of the result; without an entry a column is decoded as it comes.
def resultTypes (c : Catalog) : Statement → List (Option ColumnType)
  | select s => s.resultTypes c
  | insert i => i.returning.map (·.type? c)
  | update u => u.returning.map (·.type? c)
  | delete d => d.returning.map (·.type? c)
  | raw _ | schema _ => []

end Statement

end PolySql
