import PolySql.Query.Render
import PolySql.Statement.Draws

namespace PolySql

inductive ConflictAction
  | doNothing
  | update (columns : List ColumnId)

structure OnConflict where
  target : List ColumnId
  action : ConflictAction

structure Insert where
  table : TableId
  columns : List ColumnId
  rows : List (List Column)
  returning : List Column
  onConflict : Option OnConflict

-- A list of returned columns; they are named without their table.
def renderReturning (cx : Context) (returning : List Column) : Result Fragment :=
  if returning.isEmpty then .ok []
  else do
    cx.require .returning "RETURNING"
    return Fragment.words " RETURNING " ++
      Fragment.joined ", " (← Column.renderAll cx.unqualified none returning)

namespace Insert

open Fragment

def checkColumns (c : Catalog) (table : TableId) (seen : List ColumnId) :
    List ColumnId → Result Unit
  | [] => .ok ()
  | id :: r =>
    if id.table ≠ table then
      .error (.compilation ("Column `" ++ c.columnName id ++ "` does not belong to table `" ++
        c.tableName table ++ "`"))
    else if seen.contains id then
      .error (.compilation ("Column `" ++ c.columnName id ++ "` is assigned twice"))
    else checkColumns c table (id :: seen) r

def checkWidths (c : Catalog) (table : TableId) (width : Nat) (rows : List (List Column)) :
    Result Unit :=
  match rows.find? (·.length != width) with
  | some row =>
    .error (.compilation ("Insert into `" ++ c.tableName table ++ "` has " ++ toString width ++
      " columns but a row with " ++ toString row.length ++ " values"))
  | none => .ok ()

-- A column that the caller left out, with its generator.
structure Completion where
  id : ColumnId
  draw : Nat → Value

-- What becomes of an omitted column: a value for every row, nothing, or an error.
def completion? (c : Catalog) (table : TableId) (id : ColumnId) (column : ColumnDef) :
    Result (Option Completion) :=
  match column.default with
  | some (.client draw) => .ok (some ⟨id, draw⟩)
  | some _ => .ok none
  | none =>
    if column.nullable || column.autoIncrement then .ok none
    else .error (.compilation ("No value for non-nullable column `" ++ column.name ++ "` of `" ++
      c.tableName table ++ "`"))

-- The columns with generators up to the first omitted column that needs a value from the caller.
def completions (c : Catalog) (table : TableId) (given : List ColumnId) :
    List ColumnId → List Completion × Result Unit
  | [] => ([], .ok ())
  | id :: r =>
    if given.contains id then completions c table given r
    else match c.column? id with
      | none => completions c table given r
      | some column =>
        match completion? c table id column with
        | .error e => ([], .error e)
        | .ok none => completions c table given r
        | .ok (some x) =>
          let (xs, end_) := completions c table given r
          (x :: xs, end_)

-- The values of the row with the given number; every generator is asked once for each row.
def completedRow (draws : Draws) (xs : List Completion) (row : List Column) (number : Nat) :
    List Column :=
  row ++ xs.map fun x => .param (x.draw (draws.count x.id + number))

def drawn (draws : Draws) (xs : List Completion) (rows : Nat) : Draws :=
  xs.foldl (fun s x => s.advance x.id rows) draws

def checkNulls (c : Catalog) (table : TableId) (columns : List ColumnId)
    (rows : List (List Column)) : Result Unit :=
  let cells := rows.flatMap fun row => columns.zip row
  match cells.find? fun (id, value) => value.isNullConstant && !c.isNullable id with
  | some (id, _) =>
    .error (.compilation ("NULL for non-nullable column `" ++ c.columnName id ++ "` of `" ++
      c.tableName table ++ "`"))
  | none => .ok ()

def checkGiven (c : Catalog) (table : TableId) (columns : List ColumnId)
    (rows : List (List Column)) : Result Unit := do
  checkColumns c table [] columns
  checkWidths c table columns.length rows

-- An insert of rows with values for the given columns. Generators supply values for omitted columns;
-- what they have given stays given if a check fails later.
def multi (c : Catalog) (table : TableId) (columns : List ColumnId) (rows : List (List Column)) :
    Draft Insert := fun draws =>
  match checkGiven c table columns rows with
  | .error e => (.error e, draws)
  | .ok () =>
    let (xs, omitted) := completions c table columns (c.columnIds table)
    let allColumns := columns ++ xs.map (·.id)
    let allRows := rows.mapIdx fun i row => completedRow draws xs row i
    let built : Result Insert := do
      omitted
      checkNulls c table allColumns allRows
      return ⟨table, allColumns, allRows, [], none⟩
    (built, drawn draws xs rows.length)

-- An insert of one row.
def new (c : Catalog) (table : TableId) (values : List (ColumnId × Column)) : Draft Insert :=
  multi c table (values.map (·.1)) [values.map (·.2)]

def columnList (cx : Context) (columns : List ColumnId) : Fragment :=
  parenthesised (joined ", " (columns.map fun id => name (cx.catalog.columnName id)))

def renderCells (cx : Context) : List ColumnId → List Column → Result (List Fragment)
  | id :: ids, value :: values => do
    let head ← value.render cx (cx.catalog.columnType? id)
    let tail ← renderCells cx ids values
    return head :: tail
  | _, _ => .ok []

def renderRow (cx : Context) (columns : List ColumnId) (row : List Column) : Result Fragment := do
  return joined ", " (← renderCells cx columns row)

def renderValues (cx : Context) (columns : List ColumnId) (rows : List (List Column)) :
    Result Fragment := do
  if columns.isEmpty then
    if 1 < rows.length then
      throw (.compilation "Cannot insert several rows without any column values")
    match cx.dialect.defaultValues with
    | some tail => return words tail
    | none => throw (cx.unsupported "INSERT with only default values")
  else
    if 1 < rows.length then cx.require .multiRowInsert "multi-row INSERT"
    let tuples ← rows.mapM (renderRow cx columns)
    return words " " ++ columnList cx columns ++ words " VALUES " ++
      parenthesised (joined "), (" tuples)

-- A column set to the value that was to be inserted, or to itself.
def conflictUpdate (cx : Context) (before after : String) (columns : List ColumnId) : Fragment :=
  joined ", " (columns.map fun id =>
    let column := name (cx.catalog.columnName id)
    column ++ words before ++ column ++ (if after.isEmpty then [] else words after))

def renderOnConflict (cx : Context) (conflict : OnConflict) : Result Fragment := do
  let target := if conflict.target.isEmpty then [] else words " " ++ columnList cx conflict.target
  let action ← match conflict.action with
    | .doNothing => pure (words " DO NOTHING")
    | .update columns =>
      if conflict.target.isEmpty || columns.isEmpty then
        throw (.compilation "An upsert needs a conflict target and the columns to update")
      pure (words " DO UPDATE SET " ++ conflictUpdate cx " = EXCLUDED." "" columns)
  return words " ON CONFLICT" ++ target ++ action

-- Without columns to update, the first key column is set to itself.
def renderOnDuplicateKey (cx : Context) (table : TableId) (action : ConflictAction) :
    Result Fragment := do
  let (columns, before, after) := match action with
    | .doNothing => ((cx.catalog.keyIds table).take 1, " = ", "")
    | .update columns => (columns, " = VALUES(", ")")
  if columns.isEmpty then
    throw (.compilation "An upsert needs the columns to update")
  return words " ON DUPLICATE KEY UPDATE " ++ conflictUpdate cx before after columns

def renderConflict (cx : Context) (table : TableId) : Option OnConflict → Result Fragment
  | none => .ok []
  | some conflict => do
    cx.require .upsert "INSERT with conflict handling"
    match cx.dialect.upsertStyle with
    | .onConflict => renderOnConflict cx conflict
    | .onDuplicateKey => renderOnDuplicateKey cx table conflict.action
    | .unsupported => throw (cx.unsupported "INSERT with conflict handling")

def render (cx : Context) (i : Insert) : Result Fragment := do
  let values ← renderValues cx i.columns i.rows
  let conflict ← renderConflict cx i.table i.onConflict
  let returned ← renderReturning cx i.returning
  return words "INSERT INTO " ++ name (cx.catalog.tableName i.table) ++ values ++ conflict ++ returned

end Insert

end PolySql
