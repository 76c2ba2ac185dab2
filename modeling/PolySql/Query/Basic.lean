import PolySql.Catalog.Basic

namespace PolySql

inductive Direction
  | ascending
  | descending
  deriving DecidableEq

inductive JoinKind
  | inner
  | left
  deriving DecidableEq

inductive Comparison
  | eq
  | ne
  | lt
  | le
  | gt
  | ge
  deriving DecidableEq

mutual

inductive Column
  | physical (id : ColumnId) (aliasName : Option String)
  | param (v : Value)
  | literal (v : Value)
  | subSelect (s : Select)
  | star (table : Option TableId)
  | null
  | function (f : Function)

structure Function where
  kind : FunctionKind
  args : List Column
  distinct : Bool
  window : Option Window

structure Window where
  partitionBy : List Column
  orderBy : List OrderItem

structure OrderItem where
  column : Column
  direction : Direction

inductive Predicate
  | always
  | never
  | comparison (op : Comparison) (left right : Column)
  | inList (column : Column) (list : List Column)
  | between (column low high : Column)
  | like (column pattern : Column) (caseSensitive : Bool)
  | startsWith (column text : Column)
  | endsWith (column text : Column)
  | existsRow (s : Select)
  | and (left right : Predicate)
  | or (left right : Predicate)
  | not (p : Predicate)

inductive Table
  | physical (id : TableId) (aliasName : Option String)
  | join (kind : JoinKind) (left right : Table) (condition : Predicate)
  | subSelect (s : Select) (aliasName : String)

structure Select where
  table : Table
  columns : List Column
  distinct : Bool
  predicate : Predicate
  groupBy : Option (List Column)
  having : Option Predicate
  orderBy : Option (List OrderItem)
  offset : Option Int64
  limit : Option Int64
  forUpdate : Bool

end

def Comparison.text : Comparison → String
  | eq => "="
  | ne => "<>"
  | lt => "<"
  | le => "<="
  | gt => ">"
  | ge => ">="

def Comparison.negated : Comparison → Comparison
  | eq => ne
  | ne => eq
  | lt => ge
  | le => gt
  | gt => le
  | ge => lt

namespace Select

def new (table : Table) (columns : List Column) : Select where
  table := table
  columns := columns
  distinct := false
  predicate := .always
  groupBy := none
  having := none
  orderBy := none
  offset := none
  limit := none
  forUpdate := false

-- All columns of a table by name.
def allColumns (c : Catalog) (table : TableId) : Select :=
  new (.physical table none) ((c.columnIds table).map (.physical · none))

end Select

end PolySql
