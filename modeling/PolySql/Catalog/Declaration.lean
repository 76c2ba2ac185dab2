import PolySql.Catalog.Basic

namespace PolySql

structure IndexDecl where
  name : String
  columns : List String
  unique : Bool

structure ForeignKeyDecl where
  columns : List String
  foreignTable : String
  foreignColumns : List String

-- A table as its author writes it, before it is checked.
structure TableDecl where
  name : String
  columns : List ColumnDef
  primaryKey : List String
  indices : List IndexDecl
  foreignKeys : List ForeignKeyDecl

namespace TableDecl

def invalid {α : Type} (d : TableDecl) (message : String) : Result α :=
  .error (.config ("Table `" ++ d.name ++ "`: " ++ message))

def check (d : TableDecl) (holds : Bool) (message : String) : Result Unit :=
  if holds then .ok () else d.invalid message

-- The first entry that an earlier one equals.
def firstRepeated? (seen : List String) : List String → Option String
  | [] => none
  | s :: r => if seen.contains s then some s else firstRepeated? (s :: seen) r

def checkColumnNames (d : TableDecl) : Result Unit :=
  match firstRepeated? [] (d.columns.map (·.name)) with
  | some name => d.invalid ("duplicate column `" ++ name ++ "`")
  | none => .ok ()

def position (d : TableDecl) (name : String) : Result Nat :=
  match d.columns.findIdx? (·.name == name) with
  | some i => .ok i
  | none => d.invalid ("unknown column `" ++ name ++ "`")

def key (d : TableDecl) : Result (List Nat) := do
  d.check (!d.primaryKey.isEmpty) "no primary key declared"
  let positions ← d.primaryKey.mapM d.position
  d.check (decide positions.Nodup) "duplicate primary key column"
  return positions

-- Key columns hold a value, and at most one column, of an integer type, counts by itself.
def checkColumns (d : TableDecl) (key : List Nat) (counted : Bool) :
    Nat → List ColumnDef → Result Unit
  | _, [] => .ok ()
  | i, c :: r => do
    d.check (!(key.contains i && c.nullable))
      ("primary key column `" ++ c.name ++ "` cannot be nullable")
    if c.autoIncrement then
      d.check c.type.isInt ("auto-increment column `" ++ c.name ++ "` must be an integer column")
      d.check (!counted) "more than one auto-increment column"
    d.checkColumns key (counted || c.autoIncrement) (i + 1) r

def index (d : TableDecl) (i : IndexDecl) : Result IndexDef := do
  d.check (!i.columns.isEmpty) ("index `" ++ i.name ++ "` has no columns")
  return ⟨i.name, ← i.columns.mapM d.position, i.unique⟩

-- The referenced table, which is in the catalog already or is the new one.
def foreignTable (d : TableDecl) (c : Catalog) (name : String) : Result TableId :=
  if name = d.name then .ok c.tables.length
  else match c.find? name with
    | some id => .ok id
    | none => d.invalid ("foreign key references unknown table `" ++ name ++ "`")

def foreignPosition (d : TableDecl) (c : Catalog) (table : TableId) (name : String) : Result Nat :=
  if table = c.tables.length then d.position name
  else match c.columnId? table name with
    | some id => .ok id.column
    | none => d.invalid
        ("foreign key references unknown column `" ++ c.tableName table ++ "." ++ name ++ "`")

def foreignKeyName (d : TableDecl) (f : ForeignKeyDecl) : String :=
  d.name ++ "_" ++ String.intercalate "_" f.columns ++ "_fkey"

def foreignKey (d : TableDecl) (c : Catalog) (f : ForeignKeyDecl) : Result ForeignKey := do
  let columns ← f.columns.mapM d.position
  let table ← d.foreignTable c f.foreignTable
  let foreignColumns ← f.foreignColumns.mapM (d.foreignPosition c table)
  d.check (!columns.isEmpty && columns.length == foreignColumns.length)
    ("foreign key to `" ++ f.foreignTable ++ "` must pair up one or more columns")
  return {
    name := d.foreignKeyName f
    columns := columns.map (⟨c.tables.length, ·⟩)
    foreignTable := table
    foreignColumns := foreignColumns.map (⟨table, ·⟩) }

-- The checked table, for the end of the catalog.
def define (d : TableDecl) (c : Catalog) : Result TableDef := do
  if d.name.isEmpty then throw (.config "Table name must not be empty")
  d.check (c.find? d.name).isNone "a table with this name already exists"
  d.check (!d.columns.isEmpty) "no columns declared"
  d.checkColumnNames
  let key ← d.key
  d.checkColumns key false 0 d.columns
  let indices ← d.indices.mapM d.index
  let foreignKeys ← d.foreignKeys.mapM (d.foreignKey c)
  return ⟨d.name, d.columns, key, indices, foreignKeys⟩

end TableDecl

def Catalog.add (c : Catalog) (d : TableDecl) : Result Catalog := do
  return ⟨c.tables ++ [← d.define c]⟩

end PolySql
