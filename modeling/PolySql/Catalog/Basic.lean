import PolySql.ColumnType

namespace PolySql

-- A table's position in the catalog.
abbrev TableId := Nat

-- A column as the positions of its table and of itself in it.
structure ColumnId where
  table : TableId
  column : Nat
  deriving DecidableEq

-- How a column gets its value when an insert omits it.
inductive ColumnDefault
  | literal (v : Value)
  | expression (sql : String)
  -- computed for every row; the argument counts the values already drawn
  | client (draw : Nat → Value)

def ColumnDefault.shown : ColumnDefault → String
  | literal v => "Literal(" ++ v.shown ++ ")"
  | expression sql => "Expression(" ++ sql ++ ")"
  | client _ => "Client(..)"

structure ColumnDef where
  name : String
  type : ColumnType
  nullable : Bool
  autoIncrement : Bool
  unique : Bool
  default : Option ColumnDefault

namespace ColumnDef

def shown (c : ColumnDef) : String :=
  "Column: " ++ c.name ++ " (" ++ c.type.text ++ ")"

-- Does an omitted column get a value of its own?
def isGenerated (c : ColumnDef) : Bool :=
  c.autoIncrement || c.default.isSome

end ColumnDef

structure IndexDef where
  name : String
  columns : List Nat
  unique : Bool
  deriving DecidableEq

structure ForeignKey where
  name : String
  columns : List ColumnId
  foreignTable : TableId
  foreignColumns : List ColumnId
  deriving DecidableEq

structure TableDef where
  name : String
  columns : List ColumnDef
  -- positions, in the order of the key
  primaryKey : List Nat
  indices : List IndexDef
  foreignKeys : List ForeignKey

namespace TableDef

def columnIndex? (t : TableDef) (name : String) : Option Nat :=
  t.columns.findIdx? (·.name == name)

def isKey (t : TableDef) (column : Nat) : Bool :=
  t.primaryKey.contains column

def keyColumns (t : TableDef) : List ColumnDef :=
  t.primaryKey.filterMap (t.columns[·]?)

-- The other tables that foreign keys refer to, each once.
def dependencies (t : TableDef) (self : TableId) : List TableId :=
  t.foreignKeys.foldl (fun found key =>
    if key.foreignTable = self ∨ key.foreignTable ∈ found then found
    else found ++ [key.foreignTable]) []

end TableDef

-- The known tables, in the order in which they were added.
structure Catalog where
  tables : List TableDef

namespace Catalog

def empty : Catalog := ⟨[]⟩

def table? (c : Catalog) (id : TableId) : Option TableDef :=
  c.tables[id]?

def find? (c : Catalog) (name : String) : Option TableId :=
  c.tables.findIdx? (·.name == name)

def tableName (c : Catalog) (id : TableId) : String :=
  ((c.table? id).map (·.name)).getD ""

def columns (c : Catalog) (id : TableId) : List ColumnDef :=
  ((c.table? id).map (·.columns)).getD []

def column? (c : Catalog) (id : ColumnId) : Option ColumnDef :=
  (c.columns id.table)[id.column]?

def columnName (c : Catalog) (id : ColumnId) : String :=
  ((c.column? id).map (·.name)).getD ""

def columnType? (c : Catalog) (id : ColumnId) : Option ColumnType :=
  (c.column? id).map (·.type)

def isNullable (c : Catalog) (id : ColumnId) : Bool :=
  ((c.column? id).map (·.nullable)).getD true

def columnIds (c : Catalog) (id : TableId) : List ColumnId :=
  (List.range (c.columns id).length).map (⟨id, ·⟩)

def keyIds (c : Catalog) (id : TableId) : List ColumnId :=
  (((c.table? id).map (·.primaryKey)).getD []).map (⟨id, ·⟩)

def columnId? (c : Catalog) (table : TableId) (name : String) : Option ColumnId := do
  return ⟨table, ← (← c.table? table).columnIndex? name⟩

def shownTable (position : Nat) (t : TableDef) : List String :=
  [toString position ++ ": " ++ t.name, "  columns: "] ++
    t.columns.mapIdx (fun i c => "    " ++ toString i ++ ": " ++ c.shown) ++
    "  foreign keys: " :: t.foreignKeys.map ("    " ++ ·.name)

-- The catalog in a message.
def shown (c : Catalog) : String :=
  String.join ((c.tables.mapIdx shownTable).flatten.map (· ++ "\n"))

end Catalog

end PolySql
