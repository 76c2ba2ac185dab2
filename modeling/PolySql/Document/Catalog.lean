import PolySql.Catalog.Declaration
import PolySql.Document.Value

namespace PolySql.Document

def columnDefault (random : Nat → Uuid) (d : Document) : Reader ColumnDefault := do
  if d.has "literal" then return .literal (← (d.field "literal").value)
  else if d.has "expr" then return .expression (← (d.field "expr").string)
  else if d.has "counter" then
    let start ← (d.field "counter").integer
    return .client fun n => .int (Int64.ofInt (start + n))
  else if d.has "client" then
    let v ← (d.field "client").value
    return .client fun _ => v
  else return .client fun n => .uuid (random n)

def columnDef (random : Nat → Uuid) (d : Document) : Reader ColumnDef := do
  return {
    name := ← (d.field "name").string
    type := ← (d.field "type").columnType
    nullable := d.flag "nullable"
    autoIncrement := d.flag "auto"
    unique := d.flag "unique"
    default := ← (d.field "default").optional (columnDefault random) }

def indexDecl (d : Document) : Reader IndexDecl := do
  return ⟨← (d.field "name").string, ← (d.field "columns").strings, d.flag "unique"⟩

def foreignKeyDecl (d : Document) : Reader ForeignKeyDecl := do
  return ⟨← (d.field "columns").strings, ← (d.field "table").string, ← (d.field "refs").strings⟩

def tableDecl (random : Nat → Uuid) (d : Document) : Reader TableDecl := do
  return {
    name := ← (d.field "name").string
    columns := ← (d.field "columns").listOf (columnDef random)
    primaryKey := ← (d.field "pk").strings
    indices := ← (d.field "indexes").listOf indexDecl
    foreignKeys := ← (d.field "fks").listOf foreignKeyDecl }

def addTable (random : Nat → Uuid) (c : Catalog) (d : Document) : Reader Catalog := do
  Reader.ofResult (c.add (← d.tableDecl random))

-- The catalog of a list of tables. Random UUIDs come from the given stream.
def catalog (random : Nat → Uuid) (d : Document) : Reader Catalog := do
  (← d.items).foldlM (addTable random) .empty

def tableId (c : Catalog) (d : Document) : Reader TableId := do
  let name ← d.string
  Reader.ofOption ("table " ++ name) (c.find? name)

def columnOf (c : Catalog) (table : TableId) (d : Document) : Reader ColumnId := do
  let name ← d.string
  Reader.ofOption ("column " ++ name) (c.columnId? table name)

-- A column of the given table by its name, or of any other after that one's name.
def columnRef (c : Catalog) (table : TableId) (d : Document) : Reader ColumnId :=
  match d with
  | list [other, column] => do column.columnOf c (← other.tableId c)
  | d => d.columnOf c table

def columnRefs (c : Catalog) (table : TableId) (d : Document) : Reader (List ColumnId) :=
  d.listOf (columnRef c table)

end PolySql.Document
