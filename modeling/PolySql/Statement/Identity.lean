import PolySql.HostType
import PolySql.Query.Predicate

namespace PolySql

-- The key of a row whose value may still be unknown.
structure EntityId where
  table : TableId
  value? : Option Value

namespace EntityId

def new (table : TableId) : EntityId := ⟨table, none⟩

def resolved (table : TableId) (v : Value) : EntityId := ⟨table, some v⟩

def isResolved (id : EntityId) : Bool := id.value?.isSome

def shown (id : EntityId) : String :=
  "EntityId \x7b table_id: " ++ toString id.table ++ ", value: " ++
    (match id.value? with
      | some v => "Some(" ++ v.shown ++ ")"
      | none => "None") ++ " \x7d"

def value (c : Catalog) (type : HostType) (id : EntityId) : Result Value :=
  match id.value? with
  | some v => type.convert v
  | none => .error (.entityNotResolved (c.tableName id.table))

-- A key is found out once, and is never `NULL`.
def resolve (id : EntityId) (v : Value) : Result EntityId :=
  if v.isNull then .error (.compilation "An entity id cannot be resolved to NULL")
  else match id.value? with
    | none => .ok { id with value? := some v }
    | some _ =>
      .error (.compilation ("Entity id already resolved (attempted to set " ++ v.shown ++ ")"))

end EntityId

-- Values for the columns of a key, in the order in which they were first set.
structure CompositeId where
  table : TableId
  values : List (ColumnId × Value)

namespace CompositeId

def new (table : TableId) : CompositeId := ⟨table, []⟩

def get? (i : CompositeId) (id : ColumnId) : Option Value :=
  i.values.lookup id

-- A later value takes the place of an earlier one.
def put (id : ColumnId) (v : Value) : List (ColumnId × Value) → List (ColumnId × Value)
  | [] => [(id, v)]
  | (k, w) :: r => if k = id then (id, v) :: r else (k, w) :: put id v r

def set (c : Catalog) (i : CompositeId) (id : ColumnId) (v : Value) : Result CompositeId :=
  if id.table ≠ i.table then
    .error (.compilation ("Column `" ++ c.columnName id ++ "` does not belong to table `" ++
      c.tableName i.table ++ "`"))
  else if !(c.keyIds i.table).contains id then
    .error (.compilation ("Column `" ++ c.columnName id ++ "` is not part of the primary key of `" ++
      c.tableName i.table ++ "`"))
  else if v.isNull && !c.isNullable id then
    .error (.compilation ("Key column `" ++ c.columnName id ++ "` is not nullable"))
  else .ok { i with values := put id v i.values }

def isComplete (c : Catalog) (i : CompositeId) : Bool :=
  (c.keyIds i.table).all fun id => (i.get? id).isSome

def comparison (id : ColumnId) : Value → Predicate
  | .null => Predicate.isNull (.physical id none)
  | v => .comparison .eq (.physical id none) (.param v)

-- The rows whose key has the values.
def predicate (i : CompositeId) : Predicate :=
  i.values.foldl (fun p (id, v) => p.both (comparison id v)) .always

end CompositeId

end PolySql
