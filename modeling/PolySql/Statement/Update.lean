import PolySql.Statement.Insert

namespace PolySql

structure Update where
  table : TableId
  values : List (ColumnId × Column)
  predicate : Predicate
  returning : List Column
  limit : Option Int64

structure Delete where
  table : TableId
  predicate : Predicate
  returning : List Column
  limit : Option Int64

-- The row limit of an update or a delete, if the dialect writes it at the given place.
def renderDmlLimit (cx : Context) (place : DmlLimitStyle) (c : Capability) (operation : String) :
    Option Int64 → Result Fragment
  | none => .ok []
  | some n => do
    cx.require c operation
    if cx.dialect.dmlLimitStyle = place then
      match place with
      | .top => return Fragment.words "TOP (" ++ (← Context.limitCount n) ++ Fragment.words ") "
      | .suffix => return Fragment.words " " ++ (← limitClause n)
    else return []

namespace Update

open Fragment

def new (table : TableId) (values : List (ColumnId × Column)) : Update :=
  ⟨table, values, .always, [], none⟩

def filter (u : Update) (p : Predicate) : Update :=
  { u with predicate := u.predicate.both p }

-- Every assigned column is one of the table, is assigned once, and gets a value if it needs one.
def checkValues (c : Catalog) (table : TableId) (seen : List ColumnId) :
    List (ColumnId × Column) → Result Unit
  | [] => .ok ()
  | (id, value) :: r =>
    if id.table ≠ table then
      .error (.compilation ("Column `" ++ c.columnName id ++ "` does not belong to table `" ++
        c.tableName table ++ "`"))
    else if seen.contains id then
      .error (.compilation ("Column `" ++ c.columnName id ++ "` is assigned twice"))
    else if !c.isNullable id && value.isNullConstant then
      .error (.compilation ("NULL for non-nullable column `" ++ c.columnName id ++ "`"))
    else checkValues c table (id :: seen) r

def renderValues (cx : Context) : List (ColumnId × Column) → Result (List Fragment)
  | [] => .ok []
  | (id, value) :: r => do
    let head ← value.render cx (cx.catalog.columnType? id)
    let tail ← renderValues cx r
    return (name (cx.catalog.columnName id) ++ words " = " ++ head) :: tail

def render (cx : Context) (u : Update) : Result Fragment := do
  if u.values.isEmpty then throw (.compilation "UPDATE must assign at least one column")
  checkValues cx.catalog u.table [] u.values
  let top ← renderDmlLimit cx .top .limitWithUpdate "UPDATE with LIMIT" u.limit
  let values ← renderValues cx u.values
  let filter ← u.predicate.renderAfter cx " WHERE "
  let limit ← renderDmlLimit cx .suffix .limitWithUpdate "UPDATE with LIMIT" u.limit
  let returned ← renderReturning cx u.returning
  return words "UPDATE " ++ top ++ name (cx.catalog.tableName u.table) ++ words " SET " ++
    joined ", " values ++ filter ++ limit ++ returned

end Update

namespace Delete

open Fragment

def new (table : TableId) : Delete :=
  ⟨table, .always, [], none⟩

def filter (s : Delete) (p : Predicate) : Delete :=
  { s with predicate := s.predicate.both p }

def render (cx : Context) (s : Delete) : Result Fragment := do
  let top ← renderDmlLimit cx .top .limitWithDelete "DELETE with LIMIT" s.limit
  let filter ← s.predicate.renderAfter cx " WHERE "
  let limit ← renderDmlLimit cx .suffix .limitWithDelete "DELETE with LIMIT" s.limit
  let returned ← renderReturning cx s.returning
  return words "DELETE " ++ top ++ words "FROM " ++ name (cx.catalog.tableName s.table) ++ filter ++
    limit ++ returned

end Delete

end PolySql
