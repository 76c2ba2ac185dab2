import PolySql.Document.Catalog
import PolySql.Query.TypedColumn
import PolySql.Statement.Identity

namespace PolySql.Document

def functionKind (d : Document) : Reader FunctionKind :=
  d.oneOf "function" FunctionKind.all fun k => String.ofList (k.standardName.toList.map Char.toLower)

def direction (d : Document) : Reader Direction :=
  d.named "direction" [("asc", .ascending), ("desc", .descending)]

def typedColumnOf (c : Catalog) (type : HostType) (d : Document) : Reader TypedColumn := do
  let table ← (d.field "table").tableId c
  let column ← Reader.ofResult (TypedColumn.ofName c type table (← (d.field "column").string))
  match ← (d.field "alias").optional string with
  | some name => return column.withAlias name
  | none => return column

def typedColumn (c : Catalog) (d : Document) : Reader TypedColumn := do
  d.typedColumnOf c (← (d.field "as").hostType)

def valueOfType (type : HostType) (d : Document) : Reader Value := do
  Reader.ofResult (type.convert (← d.value))

-- The only argument of a method.
def soleArgument (args : List Document) : Reader Document :=
  Reader.ofOption "argument" args.head?

def lowerComparisons : List (String × Comparison) := [
  ("eq", .eq), ("neq", .ne), ("lt", .lt), ("lte", .le), ("gt", .gt), ("gte", .ge)]

def typedPredicate (c : Catalog) (d : Document) : Reader Predicate := do
  let column ← d.typedColumn c
  let args ← (d.field "args").items
  let argument := soleArgument args
  let method ← (d.field "method").string
  match lowerComparisons.lookup method with
  | some op => return column.compare op (← (← argument).valueOfType column.type)
  | none =>
    match method, args with
    | "between", [low, high] =>
      return column.between (← low.valueOfType column.type) (← high.valueOfType column.type)
    | "in_list", _ => return column.oneOf (← args.mapM (valueOfType column.type))
    | "is_null", _ => return column.isNull
    | "is_not_null", _ => return column.isNotNull
    | "eq_column", _ => return column.equalColumn (← (← argument).typedColumnOf c column.type)
    | "like", _ => return column.like (← (← argument).string) true
    | "ilike", _ => return column.like (← (← argument).string) false
    | "starts_with", _ => return column.startsWith (← (← argument).string)
    | "ends_with", _ => return column.endsWith (← (← argument).string)
    | _, _ => Reader.malformed ("method " ++ method)

def keyValue (c : Catalog) (id : CompositeId) (d : Document) : Reader CompositeId := do
  match d with
  | list [column, v] =>
    Reader.ofResult (id.set c (← column.columnRef c id.table) (← v.value))
  | _ => Reader.malformed "expected a column and a value"

def compositeId (c : Catalog) (d : Document) : Reader CompositeId := do
  (← (d.field "set").items).foldlM (keyValue c) (.new (← (d.field "table").tableId c))

-- The readers of what lies inside an expression.
structure QueryReaders where
  column : Document → Reader Column
  predicate : Document → Reader Predicate
  table : Document → Reader Table
  select : Document → Reader Select

namespace QueryReaders

def orderItem (r : QueryReaders) (d : Document) : Reader OrderItem := do
  match d with
  | list [column, direction] => return ⟨← r.column column, ← direction.direction⟩
  | _ => Reader.malformed "expected a column and a direction"

def window (r : QueryReaders) (d : Document) : Reader Window := do
  return ⟨← (d.field "partition").listOf r.column, ← (d.field "order").listOf r.orderItem⟩

def function (r : QueryReaders) (d : Document) : Reader Function := do
  return ⟨← (d.field "fn").functionKind, ← (d.field "args").listOf r.column, d.flag "distinct",
    ← (d.field "over").optional r.window⟩

def columnOf (r : QueryReaders) (c : Catalog) (d : Document) : Reader Column := do
  match d with
  | text "NULL" => return .null
  | list [table, column] => return .physical (← column.columnOf c (← table.tableId c)) none
  | list [table, column, other] =>
    return .physical (← column.columnOf c (← table.tableId c)) (some (← other.string))
  | d =>
    if d.has "param" then return .param (← (d.field "param").value)
    else if d.has "lit" then return .literal (← (d.field "lit").value)
    else if d.has "select" then return .subSelect (← r.select (d.field "select"))
    else if d.has "star" then return .star (← (d.field "star").optional (tableId c))
    else if d.has "typed" then return (← (d.field "typed").typedColumn c).column
    else if d.has "fn" then return .function (← r.function d)
    else Reader.malformed "column"

def upperComparisons : List (String × Comparison) := [
  ("Eq", .eq), ("Neq", .ne), ("Lt", .lt), ("Lte", .le), ("Gt", .gt), ("Gte", .ge)]

def columnPredicates : List (String × (Column → Column → Predicate)) :=
  [("eq", .equal), ("neq", .notEqual), ("like", (.like · · true)), ("ilike", (.like · · false)),
    ("starts", .startsWith), ("ends", .endsWith)] ++
    upperComparisons.map fun (name, op) => (name, .comparison op)

def connectives : List (String × (Predicate → Predicate → Predicate)) :=
  [("and", .both), ("or", .either), ("And", .and), ("Or", .or)]

-- A predicate is a list that begins with its name.
def predicateOf (r : QueryReaders) (c : Catalog) (d : Document) : Reader Predicate := do
  match ← d.items with
  | text name :: args =>
    match columnPredicates.lookup name, connectives.lookup name, args with
    | some f, _, [a, b] => return f (← r.column a) (← r.column b)
    | _, some f, [p, q] => return f (← r.predicate p) (← r.predicate q)
    | _, _, _ =>
      match name, args with
      | "true", _ => return .always
      | "false", _ => return .never
      | "bool", [b] => return .ofBool b.isTrue
      | "in", [a, l] => return .oneOf (← r.column a) (← l.listOf r.column)
      | "In", [a, l] => return .inList (← r.column a) (← l.listOf r.column)
      | "not", [p] => return (← r.predicate p).negated
      | "Not", [p] => return .not (← r.predicate p)
      | "all", ps => return .all (← ps.mapM r.predicate)
      | "any", ps => return .any (← ps.mapM r.predicate)
      | "is_null", [a] => return .isNull (← r.column a)
      | "is_not_null", [a] => return .isNotNull (← r.column a)
      | "exists", [s] => return .existsRow (← r.select s)
      | "between", [a, low, high] =>
        return .between (← r.column a) (← r.column low) (← r.column high)
      | "typed", [t] => t.typedPredicate c
      | "id", [i] => return (← i.compositeId c).predicate
      | _, _ => Reader.malformed ("predicate " ++ name)
  | _ => Reader.malformed "predicate"

def tableOf (r : QueryReaders) (c : Catalog) (d : Document) : Reader Table := do
  match d with
  | text _ => return .physical (← d.tableId c) none
  | list [table, other] => return .physical (← table.tableId c) (some (← other.string))
  | d =>
    if d.has "join" then
      return .join (← (d.field "join").named "join" [("inner", .inner), ("left", .left)])
        (← r.table (d.field "left")) (← r.table (d.field "right")) (← r.predicate (d.field "on"))
    else return .subSelect (← r.select (d.field "select")) (← (d.field "as").string)

def source (r : QueryReaders) (c : Catalog) (d : Document) : Reader Select := do
  if d.has "all" then return .allColumns c (← (d.field "all").tableId c)
  else return .new (← r.table (d.field "from")) (← (d.field "columns").listOf r.column)

def selectOf (r : QueryReaders) (c : Catalog) (d : Document) : Reader Select := do
  let source ← r.source c d
  let conditions ← (d.field "where").listOf r.predicate
  return { conditions.foldl Select.filter source with
    distinct := d.flag "distinct"
    groupBy := ← (d.field "group_by").optional (·.listOf r.column)
    having := ← (d.field "having").optional r.predicate
    orderBy := ← (d.field "order_by").optional (·.listOf r.orderItem)
    limit := ← (d.field "limit").optional int64
    offset := ← (d.field "offset").optional int64
    forUpdate := d.flag "for_update" }

-- Readers for data of at most the given depth.
def upTo (c : Catalog) : Nat → QueryReaders
  | 0 =>
    ⟨fun _ => Reader.malformed "column", fun _ => Reader.malformed "predicate",
      fun _ => Reader.malformed "table", fun _ => Reader.malformed "select"⟩
  | depth + 1 =>
    let inner := upTo c depth
    ⟨inner.columnOf c, inner.predicateOf c, inner.tableOf c, inner.selectOf c⟩

end QueryReaders

def readers (c : Catalog) (d : Document) : QueryReaders :=
  .upTo c d.depth

def column (c : Catalog) (d : Document) : Reader Column :=
  (d.readers c).column d

def columns (c : Catalog) (d : Document) : Reader (List Column) :=
  d.listOf (column c)

def predicate (c : Catalog) (d : Document) : Reader Predicate :=
  (d.readers c).predicate d

def table (c : Catalog) (d : Document) : Reader Table :=
  (d.readers c).table d

def select (c : Catalog) (d : Document) : Reader Select :=
  (d.readers c).select d

def function (c : Catalog) (d : Document) : Reader Function :=
  (d.readers c).function d

def orderItems (c : Catalog) (d : Document) : Reader (List OrderItem) :=
  d.listOf (d.readers c).orderItem

end PolySql.Document
