import PolySql.Catalog.Basic
import PolySql.Sql.Fragment

namespace PolySql

-- What rendering depends on. Columns are written with their table's name if `qualified` holds.
structure Context where
  catalog : Catalog
  dialect : Dialect
  version : Option Version
  qualified : Bool

namespace Context

def new (catalog : Catalog) (dialect : Dialect) (version : Option Version) : Context :=
  ⟨catalog, dialect, version, true⟩

def unqualified (cx : Context) : Context :=
  { cx with qualified := false }

def supports (cx : Context) (c : Capability) : Bool :=
  cx.dialect.isSupported cx.version c

def unsupported (cx : Context) (operation : String) : DatabaseError :=
  .unsupported cx.dialect.name operation

def require (cx : Context) (c : Capability) (operation : String) : Result Unit :=
  if cx.supports c then .ok () else .error (cx.unsupported operation)

-- A column after the name of its table or the table's alias.
def columnName (cx : Context) (owner column : String) : Fragment :=
  if cx.qualified then [.name owner, .words ".", .name column] else [.name column]

-- The stored form of a value in a column of the given type, or without a known column.
def stored (cx : Context) (type : Option ColumnType) (v : Value) : Result Value :=
  match type with
  | some t => t.encode cx.dialect v
  | none => .ok (cx.dialect.stored v)

def param (cx : Context) (type : Option ColumnType) (v : Value) : Result Fragment := do
  return [.param (← cx.stored type v)]

def literal (cx : Context) (type : Option ColumnType) (v : Value) : Result Fragment := do
  return [.literal (← cx.stored type v)]

end Context

-- A statement under construction.
structure Builder where
  context : Context
  sql : String
  params : List Value

namespace Builder

def new (cx : Context) : Builder :=
  ⟨cx, "", []⟩

def push (b : Builder) (f : Fragment) : Builder :=
  { b with
    sql := b.sql ++ f.text b.context.dialect b.params.length
    params := b.params ++ f.params }

end Builder

end PolySql
