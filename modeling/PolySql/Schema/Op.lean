import PolySql.Sql.Context

namespace PolySql

-- A change of the schema.
inductive SchemaOp
  | createTable (table : TableId) (ifNotExists : Bool)
  | dropTable (table : TableId) (ifExists : Bool)
  | createIndex (table : TableId) (index : Nat) (ifNotExists : Bool)
  deriving DecidableEq

namespace SchemaOp

open Fragment

def createTableAndIndices (ifNotExists : Bool) (id : TableId) (t : TableDef) : List SchemaOp :=
  createTable id ifNotExists ::
    (List.range t.indices.length).map (createIndex id · ifNotExists)

-- Every table, followed by its indices, in the order of the catalog.
def createAll (c : Catalog) (ifNotExists : Bool) : List SchemaOp :=
  (c.tables.mapIdx (createTableAndIndices ifNotExists)).flatten

-- Every table, the last one of the catalog first.
def dropAll (c : Catalog) (ifExists : Bool) : List SchemaOp :=
  (List.range c.tables.length).reverse.map (dropTable · ifExists)

-- The length of a name counts its bytes.
def checkName (cx : Context) (name : String) : Result Unit :=
  match cx.dialect.maxIdentifier with
  | none => .ok ()
  | some most =>
    if name.utf8ByteSize ≤ most then .ok ()
    else .error (.compilation ("Identifier `" ++ name ++ "` is longer than the " ++ toString most ++
      " characters " ++ cx.dialect.name ++ " allows"))

def autoIncrement? (d : Dialect) (column : ColumnDef) : Option AutoIncrement :=
  match column.autoIncrement, column.type with
  | true, .int w => some (d.autoIncrement (ColumnType.intDataType w))
  | _, _ => none

def declaresKey (d : Dialect) (column : ColumnDef) : Bool :=
  (autoIncrement? d column).any (·.declaresKey)

def renderDefault (cx : Context) (column : ColumnDef) : Result Fragment :=
  match column.default with
  | some (.literal v) => do return words " DEFAULT " ++ (← cx.literal (some column.type) v)
  | some (.expression sql) => .ok (words " DEFAULT " ++ words sql)
  | some (.client _) | none => .ok []

def renderColumn (cx : Context) (column : ColumnDef) : Result Fragment := do
  checkName cx column.name
  let type := match autoIncrement? cx.dialect column with
    | some a => a.typeSql
    | none => column.type.sql cx.dialect
  let default ← renderDefault cx column
  return name column.name ++ words " " ++ words type ++ default ++
    (if column.nullable || declaresKey cx.dialect column then [] else words " NOT NULL") ++
    (if column.unique then words " UNIQUE" else [])

def renderKey (cx : Context) (t : TableDef) : Fragment :=
  if t.keyColumns.any (declaresKey cx.dialect) then []
  else words ", PRIMARY KEY " ++ nameList (t.keyColumns.map (·.name))

def renderForeignKey (cx : Context) (key : ForeignKey) : Result Fragment := do
  checkName cx key.name
  return words ", CONSTRAINT " ++ name key.name ++ words " FOREIGN KEY " ++
    nameList (key.columns.map cx.catalog.columnName) ++ words " REFERENCES " ++
    name (cx.catalog.tableName key.foreignTable) ++ words " " ++
    nameList (key.foreignColumns.map cx.catalog.columnName)

-- A phrase that only some servers know.
def renderGuard (cx : Context) (wanted : Bool) (c : Capability) (operation phrase : String) :
    Result Fragment :=
  if wanted then do
    cx.require c operation
    return words phrase
  else .ok []

def renderCreateTable (cx : Context) (t : TableDef) (ifNotExists : Bool) : Result Fragment := do
  checkName cx t.name
  let guard ← renderGuard cx ifNotExists .createTableIfNotExists "CREATE TABLE IF NOT EXISTS"
    "IF NOT EXISTS "
  let columns ← t.columns.mapM (renderColumn cx)
  let foreignKeys ← t.foreignKeys.mapM (renderForeignKey cx)
  return words "CREATE TABLE " ++ guard ++ name t.name ++ words " " ++
    parenthesised (joined ", " columns ++ renderKey cx t ++ foreignKeys.flatten)

def renderCreateIndex (cx : Context) (t : TableDef) (index : IndexDef) (ifNotExists : Bool) :
    Result Fragment := do
  checkName cx index.name
  let guard ← renderGuard cx ifNotExists .createIndexIfNotExists "CREATE INDEX IF NOT EXISTS"
    "IF NOT EXISTS "
  return words "CREATE " ++ (if index.unique then words "UNIQUE " else []) ++ words "INDEX " ++
    guard ++ name index.name ++ words " ON " ++ name t.name ++ words " " ++
    nameList ((index.columns.filterMap (t.columns[·]?)).map (·.name))

def unknownTable {α : Type} (id : TableId) : Result α :=
  .error (.compilation ("No table #" ++ toString id))

def render (cx : Context) : SchemaOp → Result Fragment
  | createTable id ifNotExists =>
    match cx.catalog.table? id with
    | some t => renderCreateTable cx t ifNotExists
    | none => unknownTable id
  | dropTable id ifExists => do
    let guard ← renderGuard cx ifExists .dropTableIfExists "DROP TABLE IF EXISTS" "IF EXISTS "
    return words "DROP TABLE " ++ guard ++ name (cx.catalog.tableName id)
  | createIndex id position ifNotExists =>
    match cx.catalog.table? id with
    | none => unknownTable id
    | some t =>
      match t.indices[position]? with
      | some index => renderCreateIndex cx t index ifNotExists
      | none => .error (.compilation ("Table `" ++ t.name ++ "` has no index #" ++ toString position))

end SchemaOp

end PolySql
