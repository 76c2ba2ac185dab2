import PolySql.Dialect.Identifier
import PolySql.Proofs.Catalog.WellFormed
import PolySql.Statement.Basic

namespace PolySql

-- A column of a result: its name, if it has one of its own, and the physical column whose values it holds.
structure ResultField where
  name : Option String
  origin : Option ColumnId
  deriving DecidableEq

def ResultField.unnamed (f : ResultField) : ResultField :=
  { f with name := none }

-- What an entry of a `FROM` clause offers, and the name by which the entry is known.
structure Source where
  label : String
  fields : List ResultField

-- What a server finds in a part of a statement, and whether each name there means what it was written for.
structure Resolution (α : Type) where
  found : List α
  isFaithful : Bool

namespace Resolution

variable {α : Type}

def empty : Resolution α :=
  ⟨[], true⟩

def append (a b : Resolution α) : Resolution α :=
  ⟨a.found ++ b.found, a.isFaithful && b.isFaithful⟩

-- A value that is no column's.
def computed : Resolution ResultField :=
  ⟨[⟨none, none⟩], true⟩

-- The single column of a resolution as an expression, which has no name.
def operand? : Resolution ResultField → Option (Resolution ResultField)
  | ⟨[f], isFaithful⟩ => some ⟨[f.unnamed], isFaithful⟩
  | _ => none

end Resolution

def Catalog.fields (c : Catalog) (table : TableId) : List ResultField :=
  (c.columnIds table).map fun id => ⟨some (c.columnName id), some id⟩

def Catalog.source (c : Catalog) (table : TableId) (aliasName : Option String) : Source :=
  ⟨aliasName.getD (c.tableName table), c.fields table⟩

-- Two names are one to the server if it stores them alike.
def Dialect.sameName (d : Dialect) (a b : String) : Bool :=
  d.storedName a == d.storedName b

namespace Context

def labelled (cx : Context) (sources : List Source) (label : String) : List Source :=
  sources.filter fun source => cx.dialect.sameName source.label label

-- The columns that a name fits, which is any entry's if names are written without their tables.
def candidates (cx : Context) (sources : List Source) (owner name : String) : List ResultField :=
  ((if cx.qualified then cx.labelled sources owner else sources).flatMap (·.fields)).filter
    fun f => f.name.any (cx.dialect.sameName name)

-- A name means the one column that it fits in the innermost scope where it fits any.
def lookup? (cx : Context) (owner name : String) : List (List Source) → Option ResultField
  | [] => none
  | sources :: outer =>
    match cx.candidates sources owner name with
    | [] => lookup? cx owner name outer
    | [f] => some f
    | _ => none

-- The columns of the one entry with the table's name, which was written for the columns of the table.
def tableStar? (cx : Context) (sources : List Source) (table : TableId) : Option (Resolution ResultField) :=
  match cx.labelled sources (cx.catalog.tableName table) with
  | [source] => some ⟨source.fields, source.fields.map (·.origin) == (cx.catalog.columnIds table).map some⟩
  | _ => none

end Context

mutual

-- The columns that an expression of a list is, in the scopes around it, the innermost first.
def Column.resolve? (cx : Context) (scopes : List (List Source)) : Column → Option (Resolution ResultField)
  | .physical id aliasName => do
    let name := cx.catalog.columnName id
    let field ← cx.lookup? (aliasName.getD (cx.catalog.tableName id.table)) name scopes
    return ⟨[⟨some name, field.origin⟩], field.origin == some id⟩
  | .star none => some ⟨(scopes.headD []).flatMap (·.fields), true⟩
  | .star (some table) => cx.tableStar? (scopes.headD []) table
  | .subSelect s => do (← s.resolve? cx scopes).operand?
  | .function f => f.resolve? cx scopes
  | .param _ | .literal _ | .null => some .computed

def Column.resolveAll? (cx : Context) (scopes : List (List Source)) : List Column → Option (Resolution ResultField)
  | [] => some .empty
  | a :: r => do
    let head ← a.resolve? cx scopes
    let tail ← Column.resolveAll? cx scopes r
    return head.append tail

def Column.resolveHead? (cx : Context) (scopes : List (List Source)) : List Column → Option (Resolution ResultField)
  | [] => some .computed
  | a :: _ => do (← a.resolve? cx scopes).operand?

def Function.resolve? (cx : Context) (scopes : List (List Source)) : Function → Option (Resolution ResultField)
  | ⟨kind, args, _, _⟩ => if kind.keepsType then Column.resolveHead? cx scopes args else some .computed

-- The entries of a `FROM` clause; none of them sees another.
def Table.resolve? (cx : Context) (outer : List (List Source)) : Table → Option (Resolution Source)
  | .physical id aliasName => some ⟨[cx.catalog.source id aliasName], true⟩
  | .join _ left right _ => do
    let l ← left.resolve? cx outer
    let r ← right.resolve? cx outer
    return l.append r
  | .subSelect s aliasName => do
    let r ← s.resolve? cx outer
    return ⟨[⟨aliasName, r.found⟩], r.isFaithful⟩

def Select.resolve? (cx : Context) (outer : List (List Source)) : Select → Option (Resolution ResultField)
  | ⟨table, columns, _, _, _, _, _, _, _, _⟩ => do
    let sources ← table.resolve? cx outer
    let r ← Column.resolveAll? cx (sources.found :: outer) columns
    return ⟨r.found, sources.isFaithful && r.isFaithful⟩

end

namespace Statement

-- The table of a statement that changes rows, and the list of what it returns of them.
def returned? : Statement → Option (TableId × List Column)
  | insert i => some (i.table, i.returning)
  | update u => some (u.table, u.returning)
  | delete d => some (d.table, d.returning)
  | select _ | raw _ | schema _ => none

-- The columns of the result, of a statement whose text is not the caller's own.
def resolve? (cx : Context) : Statement → Option (Resolution ResultField)
  | select s => s.resolve? cx []
  | s => do
    let (table, returning) ← s.returned?
    Column.resolveAll? cx.unqualified [[cx.catalog.source table none]] returning

end Statement

end PolySql
