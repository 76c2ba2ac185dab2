import PolySql.Query.Predicate
import PolySql.Query.Typing
import PolySql.Sql.Context

namespace PolySql

open Fragment

def Direction.text : Direction → String
  | .ascending => "ASC"
  | .descending => "DESC"

def JoinKind.text : JoinKind → String
  | .inner => " INNER JOIN "
  | .left => " LEFT JOIN "

-- The parameter of a bound on the number of rows.
def Context.rowCount (what : String) (n : Int64) : Result Fragment :=
  if n.toInt < 0 then
    .error (.compilation
      (what ++ " must not be negative (got " ++ String.ofList (Text.ofInt n.toInt) ++ ")"))
  else .ok [.param (.int n)]

def Context.limitCount (n : Int64) : Result Fragment :=
  rowCount "LIMIT" n

def Context.offsetCount (n : Int64) : Result Fragment :=
  rowCount "OFFSET" n

def limitClause (n : Int64) : Result Fragment := do
  return words "LIMIT " ++ (← Context.limitCount n)

def offsetClause (n : Int64) : Result Fragment := do
  return words "OFFSET " ++ (← Context.offsetCount n)

def groupBy (columns : List Fragment) : Fragment :=
  words "GROUP BY " ++ joined ", " columns

def orderBy (items : List Fragment) : Fragment :=
  words "ORDER BY " ++ joined ", " items

namespace Select

-- Is a limit alone written ahead of the columns?
def usesTop (style : LimitStyle) (limit offset : Option Int64) : Bool :=
  match style with
  | .offsetFetch _ true => limit.isSome && offset.isNone
  | _ => false

def renderTop (style : LimitStyle) (limit offset : Option Int64) : Result Fragment :=
  match usesTop style limit offset, limit with
  | true, some n => do return words "TOP (" ++ (← Context.limitCount n) ++ words ") "
  | _, _ => .ok []

def renderLimit : Option Int64 → Result Fragment
  | some n => do return words " " ++ (← limitClause n)
  | none => .ok []

-- The end of a query that states its window as a limit and an offset.
def renderLimitOffset (unbounded : Option String) (limit offset : Option Int64) :
    Result Fragment := do
  let head ← renderLimit limit
  match offset with
  | none => return head
  | some n =>
    let filler := match limit, unbounded with
      | none, some all => words " LIMIT " ++ words all
      | _, _ => []
    return head ++ filler ++ words " " ++ (← offsetClause n)

def renderOffsetRows (requiresOrder : Bool) : Option Int64 → Result Fragment
  | some n => do return words " " ++ (← offsetClause n) ++ words " ROWS"
  | none => .ok (if requiresOrder then words " OFFSET 0 ROWS" else [])

def renderFetch : Option Int64 → Result Fragment
  | some n => do return words " FETCH NEXT " ++ (← Context.limitCount n) ++ words " ROWS ONLY"
  | none => .ok []

-- The end of a query that states its window as an offset and a number of rows to fetch.
def renderOffsetFetch (requiresOrder ordered : Bool) (limit offset : Option Int64) :
    Result Fragment :=
  if limit.isNone && offset.isNone then .ok []
  else do
    let order := if requiresOrder && !ordered then words " ORDER BY (SELECT NULL)" else []
    return order ++ (← renderOffsetRows requiresOrder offset) ++ (← renderFetch limit)

def renderWindow (style : LimitStyle) (ordered : Bool) (limit offset : Option Int64) :
    Result Fragment :=
  match style with
  | .limitOffset unbounded => renderLimitOffset unbounded limit offset
  | .offsetFetch requiresOrder _ =>
    if usesTop style limit offset then .ok []
    else renderOffsetFetch requiresOrder ordered limit offset

def renderForUpdate (cx : Context) (forUpdate : Bool) : Result Fragment :=
  if forUpdate then do
    cx.require .selectForUpdate "SELECT ... FOR UPDATE"
    return words " FOR UPDATE"
  else .ok []

end Select

-- A pattern with a wildcard at its end.
def Context.withSuffix (cx : Context) (text : Fragment) : Fragment :=
  match cx.dialect.concatStyle with
  | .operator => text ++ words " || '%'"
  | .function => words "CONCAT(" ++ text ++ words ", '%')"

-- A pattern with a wildcard at its start.
def Context.withStart (cx : Context) (text : Fragment) : Fragment :=
  match cx.dialect.concatStyle with
  | .operator => words "'%' || " ++ text
  | .function => words "CONCAT('%', " ++ text ++ words ")"

def binary (left : Fragment) (op : String) (right : Fragment) : Fragment :=
  left ++ words (" " ++ op ++ " ") ++ right

def Table.aliased (cx : Context) (f : Fragment) (aliasName : String) : Fragment :=
  f ++ [.words cx.dialect.aliasSeparator, .name aliasName]

-- How a function is written around its arguments.
def Function.call (cx : Context) (kind : FunctionKind) (distinct : Bool) (args : List Fragment) :
    Fragment :=
  let name := words (cx.dialect.functionName kind)
  match kind with
  | .currentTimestamp => name
  | .concat =>
    match cx.dialect.concatStyle with
    | .operator => parenthesised (joined " || " args)
    | .function => applied name
  | .count => if args.isEmpty then name ++ words "(*)" else applied name
  | _ => applied name
where
  applied (name : Fragment) : Fragment :=
    name ++ words "(" ++ (if distinct then words "DISTINCT " else []) ++ joined ", " args ++
      words ")"

-- Are the arguments rendered at all?
def Function.rendersArguments (kind : FunctionKind) : Bool :=
  kind != .currentTimestamp

mutual

def Column.render (cx : Context) (hint : Option ColumnType) : Column → Result Fragment
  | .physical id aliasName =>
    .ok (cx.columnName (aliasName.getD (cx.catalog.tableName id.table)) (cx.catalog.columnName id))
  | .param v => cx.param hint v
  | .literal v => cx.literal hint v
  | .subSelect s => do return parenthesised (← s.render cx)
  | .star (some table) => .ok [.name (cx.catalog.tableName table), .words ".", .words "*"]
  | .star none => .ok (words "*")
  | .null => .ok (words "NULL")
  | .function f => f.render cx

def Column.renderAll (cx : Context) (hint : Option ColumnType) :
    List Column → Result (List Fragment)
  | [] => .ok []
  | a :: r => do
    let head ← a.render cx hint
    let tail ← Column.renderAll cx hint r
    return head :: tail

def Function.render (cx : Context) : Function → Result Fragment
  | ⟨kind, args, distinct, window⟩ => do
    let hint := (Function.mk kind args distinct none).argumentType? cx.catalog
    let args ← if Function.rendersArguments kind then Column.renderAll cx hint args else .ok []
    let call := Function.call cx kind distinct args
    match window with
    | none =>
      if kind = .rowNumber then throw (.compilation "ROW_NUMBER requires an OVER clause")
      return call
    | some window =>
      cx.require .windowFunctions "window function"
      return call ++ words " OVER (" ++ (← window.render cx) ++ words ")"

def Window.render (cx : Context) : Window → Result Fragment
  | ⟨partition, order⟩ => do
    let columns ← Column.renderAll cx none partition
    let items ← OrderItem.renderAll cx order
    let partitions :=
      if columns.isEmpty then [] else words "PARTITION BY " ++ joined ", " columns
    let space := if columns.isEmpty || items.isEmpty then [] else words " "
    let order := if items.isEmpty then [] else orderBy items
    return partitions ++ space ++ order

def OrderItem.render (cx : Context) : OrderItem → Result Fragment
  | ⟨column, direction⟩ => do return (← column.render cx none) ++ words (" " ++ direction.text)

def OrderItem.renderAll (cx : Context) : List OrderItem → Result (List Fragment)
  | [] => .ok []
  | a :: r => do
    let head ← a.render cx
    let tail ← OrderItem.renderAll cx r
    return head :: tail

def Predicate.render (cx : Context) : Predicate → Result Fragment
  | .always => .ok (words cx.dialect.trueText)
  | .never => .ok (words cx.dialect.falseText)
  | .comparison op a b =>
    match op, a.isNull, b.isNull with
    | .eq, _, true => do return (← a.render cx none) ++ words " IS NULL"
    | .eq, true, _ => do return (← b.render cx none) ++ words " IS NULL"
    | .ne, _, true => do return (← a.render cx none) ++ words " IS NOT NULL"
    | .ne, true, _ => do return (← b.render cx none) ++ words " IS NOT NULL"
    | op, _, _ => do
      let left ← a.render cx (b.type? cx.catalog)
      let right ← b.render cx (a.type? cx.catalog)
      return binary left op.text right
  | .inList column list =>
    match list with
    | [] => .ok (words cx.dialect.falseText)
    | list => do
      let left ← column.render cx none
      let items ← Column.renderAll cx (column.type? cx.catalog) list
      return left ++ words " IN " ++ parenthesised (joined ", " items)
  | .between column low high => do
    let hint := column.type? cx.catalog
    let left ← column.render cx none
    let lower ← low.render cx hint
    let upper ← high.render cx hint
    return left ++ words " BETWEEN " ++ lower ++ words " AND " ++ upper
  | .like a b caseSensitive => do
    if caseSensitive || cx.supports .caseInsensitiveLike then
      let left ← a.render cx (b.type? cx.catalog)
      let right ← b.render cx (a.type? cx.catalog)
      return binary left (if caseSensitive then "LIKE" else "ILIKE") right
    else
      let left ← a.render cx none
      let right ← b.render cx none
      return words "LOWER(" ++ left ++ words ") LIKE LOWER(" ++ right ++ words ")"
  | .startsWith a b => do
    let left ← a.render cx none
    let right ← b.render cx none
    return left ++ words " LIKE " ++ cx.withSuffix right
  | .endsWith a b => do
    let left ← a.render cx none
    let right ← b.render cx none
    return left ++ words " LIKE " ++ cx.withStart right
  | .existsRow s => do return words "EXISTS " ++ parenthesised (← s.render cx)
  | .and p q => do
    let left ← p.render cx
    let right ← q.render cx
    return parenthesised (binary left "AND" right)
  | .or p q => do
    let left ← p.render cx
    let right ← q.render cx
    return parenthesised (binary left "OR" right)
  | .not p => do return words "NOT" ++ parenthesised (← p.render cx)

def Table.render (cx : Context) : Table → Result Fragment
  | .physical id aliasName =>
    let name := cx.catalog.tableName id
    match aliasName with
    | some a => .ok (if a = name then [.name name] else Table.aliased cx [.name name] a)
    | none => .ok [.name name]
  | .join kind left right condition => do
    let l ← left.render cx
    let r ← right.render cx
    let p ← condition.render cx
    return l ++ words kind.text ++ r ++ words " ON " ++ p
  | .subSelect s aliasName => do
    return Table.aliased cx (parenthesised (← s.render cx)) aliasName

def Select.render (cx : Context) : Select → Result Fragment
  | ⟨table, columns, distinct, predicate, groups, having, items, offset, limit, forUpdate⟩ => do
    if columns.isEmpty then throw (.compilation "SELECT must project at least one column")
    let style := cx.dialect.limitStyle
    let top ← Select.renderTop style limit offset
    let projected ← Column.renderAll cx none columns
    let source ← table.render cx
    let filter ← if predicate.isAlways then .ok [] else predicate.render cx
    let grouping ← Column.renderGrouping cx groups
    let groupFilter ← Predicate.renderHaving cx having
    let order ← OrderItem.renderOrder cx items
    let window ← Select.renderWindow style items.isSome limit offset
    let lock ← Select.renderForUpdate cx forUpdate
    return words "SELECT " ++ (if distinct then words "DISTINCT " else []) ++ top ++
      joined ", " projected ++ words " FROM " ++ source ++
      (if predicate.isAlways then [] else words " WHERE " ++ filter) ++ grouping ++ groupFilter ++
      order ++ window ++ lock

def Predicate.renderHaving (cx : Context) : Option Predicate → Result Fragment
  | none => .ok []
  | some p => do
    if p.isAlways then return [] else return words " HAVING " ++ (← p.render cx)

def Column.renderGrouping (cx : Context) : Option (List Column) → Result Fragment
  | none => .ok []
  | some columns => do return words " " ++ groupBy (← Column.renderAll cx none columns)

def OrderItem.renderOrder (cx : Context) : Option (List OrderItem) → Result Fragment
  | none => .ok []
  | some items => do return words " " ++ orderBy (← OrderItem.renderAll cx items)

end

-- A condition after the word that opens its clause; one that always holds is left out.
def Predicate.renderAfter (cx : Context) (opening : String) (p : Predicate) : Result Fragment := do
  if p.isAlways then return [] else return words opening ++ (← p.render cx)

def Column.groupClause (cx : Context) (columns : List Column) : Result Fragment := do
  return groupBy (← Column.renderAll cx none columns)

def OrderItem.orderClause (cx : Context) (items : List OrderItem) : Result Fragment := do
  return orderBy (← OrderItem.renderAll cx items)

end PolySql
