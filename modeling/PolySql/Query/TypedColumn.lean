import PolySql.HostType
import PolySql.Query.Predicate

namespace PolySql

-- A column that takes values of one host type.
structure TypedColumn where
  id : ColumnId
  type : HostType
  aliasName : Option String

namespace TypedColumn

-- The column of the given name, if it holds values of the type's kind.
def ofName (c : Catalog) (type : HostType) (table : TableId) (name : String) :
    Result TypedColumn := do
  match c.columnId? table name with
  | none =>
    throw (.compilation ("Table `" ++ c.tableName table ++ "` has no column `" ++ name ++ "`"))
  | some id =>
    match c.columnType? id with
    | none => throw (.compilation ("Table `" ++ c.tableName table ++ "` has no column `" ++ name ++ "`"))
    | some t =>
      if t.kind ≠ type.kind then
        let found := type.kind.name ++ " for column `" ++ name ++ "`"
        throw (.typeMismatch t.text (String.ofList (Text.shown found.toList)) type.fullName)
      return ⟨id, type, none⟩

def withAlias (c : TypedColumn) (aliasName : String) : TypedColumn :=
  { c with aliasName := some aliasName }

def column (c : TypedColumn) : Column :=
  .physical c.id c.aliasName

-- A value of the column's type; without a value it is the constant `NULL`.
def value : Value → Column
  | .null => .null
  | v => .param v

def compare (c : TypedColumn) (op : Comparison) (v : Value) : Predicate :=
  .comparison op c.column (value v)

def oneOf (c : TypedColumn) (vs : List Value) : Predicate :=
  Predicate.oneOf c.column (vs.map value)

def between (c : TypedColumn) (low high : Value) : Predicate :=
  .between c.column (value low) (value high)

def isNull (c : TypedColumn) : Predicate :=
  Predicate.isNull c.column

def isNotNull (c : TypedColumn) : Predicate :=
  Predicate.isNotNull c.column

def equalColumn (c other : TypedColumn) : Predicate :=
  .comparison .eq c.column other.column

def assign (c : TypedColumn) (v : Value) : ColumnId × Column :=
  (c.id, value v)

def like (c : TypedColumn) (pattern : String) (caseSensitive : Bool) : Predicate :=
  .like c.column (.param (.text pattern)) caseSensitive

def startsWith (c : TypedColumn) (text : String) : Predicate :=
  .startsWith c.column (.param (.text text))

def endsWith (c : TypedColumn) (text : String) : Predicate :=
  .endsWith c.column (.param (.text text))

end TypedColumn

end PolySql
