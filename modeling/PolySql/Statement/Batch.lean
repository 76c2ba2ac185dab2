import PolySql.Statement.Basic

namespace PolySql

-- Many rows for one table, inserted with as few statements as the dialect allows.
structure BatchInsert where
  insert : Insert

namespace BatchInsert

def new (c : Catalog) (table : TableId) (columns : List ColumnId) (rows : List (List Value)) :
    Draft BatchInsert := fun draws =>
  let (built, draws) := Insert.multi c table columns (rows.map (·.map .param)) draws
  (built.map (⟨·⟩), draws)

def rowCount (b : BatchInsert) : Nat :=
  b.insert.rows.length

-- The number of rows in one statement.
def chunkSize (cx : Context) (columns : Nat) : Nat :=
  if columns = 0 ∨ !cx.supports .multiRowInsert then 1
  else
    let fitting := cx.dialect.maxParameters / columns
    max 1 (match cx.dialect.maxRowsPerInsert with
      | some most => min fitting most
      | none => fitting)

-- Consecutive stretches of `size` entries; the last one may be shorter. The fuel bounds their number.
def chunksWith {α : Type} (size : Nat) : Nat → List α → List (List α)
  | 0, _ => []
  | _, [] => []
  | fuel + 1, xs => xs.take size :: chunksWith size fuel (xs.drop size)

def chunks {α : Type} (size : Nat) (xs : List α) : List (List α) :=
  chunksWith size xs.length xs

def compile (cx : Context) (b : BatchInsert) : Result (List Command) :=
  (chunks (chunkSize cx b.insert.columns.length) b.insert.rows).mapM fun rows => do
    cx.command (← { b.insert with rows := rows }.render cx)

end BatchInsert

-- The same update for many rows, each given by the values to set and the values of its key.
structure BatchUpdate where
  table : TableId
  setColumns : List ColumnId
  keyColumns : List ColumnId
  rows : List (List Value)

-- One text for several sets of parameters.
structure CompiledBatch where
  sql : String
  paramSets : List (List Value)

namespace BatchUpdate

def width (b : BatchUpdate) : Nat :=
  b.setColumns.length + b.keyColumns.length

def keyPredicate (keys : List (ColumnId × Value)) : Predicate :=
  keys.foldl (fun p (id, v) => p.both (.comparison .eq (.physical id none) (.param v))) .always

def rowUpdate (b : BatchUpdate) (row : List Value) : Result Update :=
  let keys := row.drop b.setColumns.length
  if keys.any (·.isNull) then .error (.compilation "A batch update key cannot be NULL")
  else
    let values := (b.setColumns.zip row).map fun (id, v) => (id, Column.param v)
    .ok ((Update.new b.table values).filter (keyPredicate (b.keyColumns.zip keys)))

def compileRow (cx : Context) (b : BatchUpdate) (row : List Value) : Result Command := do
  if row.length ≠ b.width then
    throw (.compilation ("Batch update row has " ++ toString row.length ++ " values, expected " ++
      toString b.width))
  cx.command (← (← b.rowUpdate row).render cx)

def compile (cx : Context) (b : BatchUpdate) : Result CompiledBatch := do
  if b.rows.isEmpty then throw (.compilation "Empty batch update")
  if b.keyColumns.isEmpty then throw (.compilation "A batch update needs key columns")
  let commands ← b.rows.mapM (compileRow cx b)
  return ⟨((commands.head?).map (·.sql)).getD "", commands.map (·.params)⟩

end BatchUpdate

end PolySql
