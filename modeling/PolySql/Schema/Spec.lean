import PolySql.Text.Character

namespace PolySql

-- A database as its own catalog describes it.

structure ColumnSpec where
  name : String
  typeName : String
  isNullable : Bool
  defaultValue : Option String
  deriving DecidableEq

structure IndexSpec where
  name : String
  columns : List String
  isUnique : Bool
  deriving DecidableEq

structure ForeignKeySpec where
  name : String
  columns : List String
  foreignTable : String
  foreignColumns : List String
  deriving DecidableEq

structure TableSpec where
  name : String
  columns : List ColumnSpec
  primaryKey : List String
  indices : List IndexSpec
  foreignKeys : List ForeignKeySpec
  deriving DecidableEq

structure DatabaseSpec where
  tables : List TableSpec
  deriving DecidableEq

def DatabaseSpec.table? (s : DatabaseSpec) (name : String) : Option TableSpec :=
  s.tables.find? fun t => Text.sameWord t.name name

def TableSpec.column? (s : TableSpec) (name : String) : Option ColumnSpec :=
  s.columns.find? fun c => Text.sameWord c.name name

end PolySql
