import PolySql.Document.Query
import PolySql.Statement.Batch

namespace PolySql.Document

-- A reader of what takes values from the generators of columns.
abbrev Drawing (α : Type) := ExceptT ReadError (StateM Draws) α

def drawing {α : Type} (f : Draft α) : Drawing α :=
  fun draws =>
    let (result, draws) := f draws
    (Reader.ofResult result, draws)

def assignment (c : Catalog) (table : TableId) (d : Document) : Reader (ColumnId × Column) := do
  match d with
  | list [column, value] => return (← column.columnRef c table, ← value.column c)
  | d =>
    let column ← (d.field "typed").typedColumn c
    return column.assign (← (d.field "value").valueOfType column.type)

def assignments (c : Catalog) (table : TableId) (d : Document) :
    Reader (List (ColumnId × Column)) :=
  d.listOf (assignment c table)

def onConflict (c : Catalog) (table : TableId) (d : Document) : Reader OnConflict := do
  let target ← (d.field "target").columnRefs c table
  match ← (d.field "update").optional (columnRefs c table) with
  | some columns => return ⟨target, .update columns⟩
  | none => return ⟨target, .doNothing⟩

-- One row of assignments, or columns with any number of rows.
def insertedRows (c : Catalog) (table : TableId) (d : Document) : Drawing Insert := do
  if d.has "values" then
    let values ← (d.field "values").assignments c table
    drawing (Insert.new c table values)
  else
    let given ← (d.field "columns").columnRefs c table
    let rows ← (d.field "rows").listOf (columns c)
    drawing (Insert.multi c table given rows)

def insert (c : Catalog) (d : Document) : Drawing Insert := do
  let table ← (d.field "table").tableId c
  let bare ← d.insertedRows c table
  let returning ← (d.field "returning").columns c
  let conflict ← (d.field "on_conflict").optional (onConflict c table)
  return { bare with returning := returning, onConflict := conflict }

def update (c : Catalog) (d : Document) : Reader Update := do
  let table ← (d.field "table").tableId c
  let values ← (d.field "set").assignments c table
  let conditions ← (d.field "where").listOf (predicate c)
  return { conditions.foldl Update.filter (Update.new table values) with
    returning := ← (d.field "returning").columns c
    limit := ← (d.field "limit").optional int64 }

def delete (c : Catalog) (d : Document) : Reader Delete := do
  let table ← (d.field "table").tableId c
  let conditions ← (d.field "where").listOf (predicate c)
  return { conditions.foldl Delete.filter (Delete.new table) with
    returning := ← (d.field "returning").columns c
    limit := ← (d.field "limit").optional int64 }

def raw (d : Document) : Reader RawStatement := do
  return ⟨← (d.field "sql").string, ← (d.field "params").values, d.flag "rows"⟩

def schemaOp (c : Catalog) (kind : String) (d : Document) : Reader SchemaOp := do
  let table ← (d.field "table").tableId c
  match kind with
  | "create_table" => return .createTable table (d.flag "if_not_exists")
  | "drop_table" => return .dropTable table (d.flag "if_exists")
  | "create_index" =>
    return .createIndex table (← (d.field "index").natural) (d.flag "if_not_exists")
  | _ => Reader.malformed ("statement " ++ kind)

-- A statement under the name of its kind.
def statement (c : Catalog) (d : Document) : Drawing Statement := do
  match d with
  | record [("select", s)] => return .select (← s.select c)
  | record [("insert", i)] => return .insert (← i.insert c)
  | record [("update", u)] => return .update (← u.update c)
  | record [("delete", s)] => return .delete (← s.delete c)
  | record [("raw", r)] => return .raw (← r.raw)
  | record [(kind, op)] => return .schema (← op.schemaOp c kind)
  | _ => (Reader.malformed "statement" : Reader Statement)

def batchInsert (c : Catalog) (d : Document) : Drawing BatchInsert := do
  let table ← (d.field "table").tableId c
  let columns ← (d.field "columns").columnRefs c table
  let rows ← (d.field "rows").valueRows
  let times ← (d.field "repeat").optional natural
  drawing (BatchInsert.new c table columns (List.replicate (times.getD 1) rows).flatten)

def batchUpdate (c : Catalog) (d : Document) : Reader BatchUpdate := do
  let table ← (d.field "table").tableId c
  return {
    table := table
    setColumns := ← (d.field "set").columnRefs c table
    keyColumns := ← (d.field "keys").columnRefs c table
    rows := ← (d.field "rows").valueRows }

end PolySql.Document
