import PolySql.Proofs.Query.Building
import PolySql.Statement.Basic

namespace PolySql

open Build

def buildReturning (returning : List Column) : Build Unit :=
  when (!returning.isEmpty) do
    require .returning "RETURNING"
    words " RETURNING "
    unqualified (Column.buildAll ", " none returning)

def buildDmlLimit (place : DmlLimitStyle) (c : Capability) (operation : String) : Option Int64 → Build Unit
  | none => done
  | some n => do
    let cx ← context
    require c operation
    when (cx.dialect.dmlLimitStyle = place) do
      match place with
      | .top => do
        words "TOP ("
        pushed (Context.limitCount n)
        words ") "
      | .suffix => do
        words " "
        Select.buildLimitClause n

namespace Insert

def buildRow (columns : List ColumnId) (row : List Column) : Build Unit := do
  let cx ← context
  each ", " (fun (id, value) => value.build (cx.catalog.columnType? id)) (columns.zip row)

def buildValues (columns : List ColumnId) (rows : List (List Column)) : Build Unit := do
  let cx ← context
  if columns.isEmpty then
    if 1 < rows.length then throw (.compilation "Cannot insert several rows without any column values")
    else match cx.dialect.defaultValues with
      | some tail => words tail
      | none => throw (cx.unsupported "INSERT with only default values")
  else do
    when (1 < rows.length) (require .multiRowInsert "multi-row INSERT")
    words " "
    names (columns.map cx.catalog.columnName)
    words " VALUES "
    words "("
    each "), (" (buildRow columns) rows
    words ")"

-- A column set to the value that was to be inserted, or to itself.
def buildConflictUpdate (before after : String) (columns : List ColumnId) : Build Unit := do
  let cx ← context
  columns |> each ", " fun id => do
    name (cx.catalog.columnName id)
    words before
    name (cx.catalog.columnName id)
    when (!after.isEmpty) (words after)

def buildOnConflict (conflict : OnConflict) : Build Unit := do
  let cx ← context
  words " ON CONFLICT"
  when (!conflict.target.isEmpty) do
    words " "
    names (conflict.target.map cx.catalog.columnName)
  match conflict.action with
  | .doNothing => words " DO NOTHING"
  | .update columns =>
    if conflict.target.isEmpty || columns.isEmpty then
      throw (.compilation "An upsert needs a conflict target and the columns to update")
    else do
      words " DO UPDATE SET "
      buildConflictUpdate " = EXCLUDED." "" columns

def buildOnDuplicateKey (table : TableId) (action : ConflictAction) : Build Unit := do
  let cx ← context
  let (columns, before, after) := match action with
    | .doNothing => ((cx.catalog.keyIds table).take 1, " = ", "")
    | .update columns => (columns, " = VALUES(", ")")
  if columns.isEmpty then throw (.compilation "An upsert needs the columns to update")
  else do
    words " ON DUPLICATE KEY UPDATE "
    buildConflictUpdate before after columns

def buildConflict (table : TableId) : Option OnConflict → Build Unit
  | none => done
  | some conflict => do
    let cx ← context
    require .upsert "INSERT with conflict handling"
    match cx.dialect.upsertStyle with
    | .onConflict => buildOnConflict conflict
    | .onDuplicateKey => buildOnDuplicateKey table conflict.action
    | .unsupported => throw (cx.unsupported "INSERT with conflict handling")

def build (i : Insert) : Build Unit := do
  let cx ← context
  words "INSERT INTO "
  name (cx.catalog.tableName i.table)
  buildValues i.columns i.rows
  buildConflict i.table i.onConflict
  buildReturning i.returning

end Insert

def Update.build (u : Update) : Build Unit :=
  if u.values.isEmpty then throw (.compilation "UPDATE must assign at least one column")
  else do
    let cx ← context
    ofResult (checkValues cx.catalog u.table [] u.values)
    words "UPDATE "
    buildDmlLimit .top .limitWithUpdate "UPDATE with LIMIT" u.limit
    name (cx.catalog.tableName u.table)
    words " SET "
    u.values |> each ", " fun (id, value) => do
      name (cx.catalog.columnName id)
      words " = "
      value.build (cx.catalog.columnType? id)
    when (!u.predicate.isAlways) do
      words " WHERE "
      u.predicate.build
    buildDmlLimit .suffix .limitWithUpdate "UPDATE with LIMIT" u.limit
    buildReturning u.returning

def Delete.build (s : Delete) : Build Unit := do
  let cx ← context
  words "DELETE "
  buildDmlLimit .top .limitWithDelete "DELETE with LIMIT" s.limit
  words "FROM "
  name (cx.catalog.tableName s.table)
  when (!s.predicate.isAlways) do
    words " WHERE "
    s.predicate.build
  buildDmlLimit .suffix .limitWithDelete "DELETE with LIMIT" s.limit
  buildReturning s.returning

namespace SchemaOp

def buildDefault (column : ColumnDef) : Build Unit :=
  match column.default with
  | some (.literal v) => do
    let cx ← context
    words " DEFAULT "
    pushed (cx.literal (some column.type) v)
  | some (.expression sql) => do
    words " DEFAULT "
    words sql
  | some (.client _) | none => done

def buildColumn (column : ColumnDef) : Build Unit := do
  let cx ← context
  ofResult (checkName cx column.name)
  name column.name
  words " "
  words (match autoIncrement? cx.dialect column with
    | some a => a.typeSql
    | none => column.type.sql cx.dialect)
  buildDefault column
  when (!column.nullable && !declaresKey cx.dialect column) (words " NOT NULL")
  when column.unique (words " UNIQUE")

def buildKey (t : TableDef) : Build Unit := do
  let cx ← context
  when (!t.keyColumns.any (declaresKey cx.dialect)) do
    words ", PRIMARY KEY "
    names (t.keyColumns.map (·.name))

def buildForeignKey (key : ForeignKey) : Build Unit := do
  let cx ← context
  ofResult (checkName cx key.name)
  words ", CONSTRAINT "
  name key.name
  words " FOREIGN KEY "
  names (key.columns.map cx.catalog.columnName)
  words " REFERENCES "
  name (cx.catalog.tableName key.foreignTable)
  words " "
  names (key.foreignColumns.map cx.catalog.columnName)

def buildGuard (wanted : Bool) (c : Capability) (operation phrase : String) : Build Unit :=
  when wanted do
    require c operation
    words phrase

def buildCreateTable (t : TableDef) (ifNotExists : Bool) : Build Unit := do
  let cx ← context
  ofResult (checkName cx t.name)
  words "CREATE TABLE "
  buildGuard ifNotExists .createTableIfNotExists "CREATE TABLE IF NOT EXISTS" "IF NOT EXISTS "
  name t.name
  words " "
  words "("
  each ", " buildColumn t.columns
  buildKey t
  t.foreignKeys.forM buildForeignKey
  words ")"

def buildCreateIndex (t : TableDef) (index : IndexDef) (ifNotExists : Bool) : Build Unit := do
  let cx ← context
  ofResult (checkName cx index.name)
  words "CREATE "
  when index.unique (words "UNIQUE ")
  words "INDEX "
  buildGuard ifNotExists .createIndexIfNotExists "CREATE INDEX IF NOT EXISTS" "IF NOT EXISTS "
  name index.name
  words " ON "
  name t.name
  words " "
  names ((index.columns.filterMap (t.columns[·]?)).map (·.name))

def build : SchemaOp → Build Unit
  | createTable id ifNotExists => do
    let cx ← context
    match cx.catalog.table? id with
    | some t => buildCreateTable t ifNotExists
    | none => ofResult (unknownTable id)
  | dropTable id ifExists => do
    let cx ← context
    words "DROP TABLE "
    buildGuard ifExists .dropTableIfExists "DROP TABLE IF EXISTS" "IF EXISTS "
    name (cx.catalog.tableName id)
  | createIndex id position ifNotExists => do
    let cx ← context
    match cx.catalog.table? id with
    | none => ofResult (unknownTable id)
    | some t =>
      match t.indices[position]? with
      | some index => buildCreateIndex t index ifNotExists
      | none => throw (.compilation ("Table `" ++ t.name ++ "` has no index #" ++ toString position))

end SchemaOp

section

variable {cx : Context}

theorem writes_buildReturning (returning : List Column) :
    Writes cx [] (buildReturning returning) (renderReturning cx returning) := by
  have hlist := Writes.unqualified (Column.writes_buildAll cx.unqualified ", " none returning)
  unfold buildReturning renderReturning
  cases returning.isEmpty
  case true => exact .done rfl
  case false => exact .require <| .push_bind <| .lastMap hlist fun _ _ => rfl

theorem writes_buildDmlLimit (place : DmlLimitStyle) (c : Capability) (operation : String) (limit : Option Int64) :
    Writes cx [] (buildDmlLimit place c operation limit) (renderDmlLimit cx place c operation limit) := by
  cases limit
  case none => exact .done rfl
  case some n =>
    refine .context <| .require ?_
    by_cases h : cx.dialect.dmlLimitStyle = place
    case neg =>
      simp only [h, decide_false, if_false]
      exact .done rfl
    case pos =>
      simp only [h, decide_true, if_true]
      cases place
      case top => exact .push_bind <| .bind (.pushed _) fun _ _ => .push rfl
      case suffix => exact .push_bind <| .last (Select.writes_buildLimitClause n) fun _ _ => rfl

namespace Insert

theorem renderCells_eq (cx : Context) (columns : List ColumnId) (row : List Column) :
    renderCells cx columns row =
      (columns.zip row).mapM fun (id, value) => value.render cx (cx.catalog.columnType? id) := by
  induction columns generalizing row
  case nil => cases row <;> rfl
  case cons id ids ih =>
    cases row
    case nil => rfl
    case cons value row => rw [renderCells, ih, List.zip_cons_cons, List.mapM_cons]

theorem writes_buildRow (columns : List ColumnId) (row : List Column) :
    Writes cx [] (buildRow columns row) (renderRow cx columns row) := by
  rw [renderRow, renderCells_eq]
  refine .context ?_
  exact .lastMap (.each (fun _ => Column.writes_build cx _ _) ", " _) fun _ _ => rfl

theorem writes_names (columns : List ColumnId) :
    Writes cx [] (names (columns.map cx.catalog.columnName)) (.ok (columnList cx columns)) := by
  have hnames : Writes cx [] _ _ := .names (columns.map cx.catalog.columnName)
  rwa [Fragment.nameList, List.map_map] at hnames

theorem writes_buildValues (columns : List ColumnId) (rows : List (List Column)) :
    Writes cx [] (buildValues columns rows) (renderValues cx columns rows) := by
  refine .context ?_
  rw [renderValues]
  have htuples : Writes cx [] (do
        words " "
        names (columns.map cx.catalog.columnName)
        words " VALUES "
        words "("
        each "), (" (buildRow columns) rows
        words ")") (do
      let tuples ← rows.mapM (renderRow cx columns)
      return Fragment.words " " ++ columnList cx columns ++ Fragment.words " VALUES " ++
        Fragment.parenthesised (Fragment.joined "), (" tuples)) :=
    .push_bind <| .bind_ok (writes_names columns) <| .push_bind <| .push_bind <|
      .bindMap (.each (writes_buildRow columns) "), (" rows) fun _ _ =>
      .push (by simp [Fragment.parenthesised, Fragment.words])
  by_cases hmany : 1 < rows.length <;> cases columns.isEmpty
  case pos.true =>
    simp only [hmany, if_true]
    exact .throw _
  case neg.true =>
    simp only [hmany, if_true, if_false]
    cases cx.dialect.defaultValues
    case none => exact .throw _
    case some tail => exact .push rfl
  case pos.false =>
    simp only [hmany, decide_true, if_true, Bool.false_eq_true, if_false]
    exact .require htuples
  case neg.false =>
    simp only [hmany, decide_false, if_false, Bool.false_eq_true]
    exact .bind_ok (.done rfl) htuples

theorem writes_buildConflictUpdate (before after : String) (columns : List ColumnId) :
    Writes cx [] (buildConflictUpdate before after columns) (.ok (conflictUpdate cx before after columns)) := by
  refine .context <| .each_ok (fun id => ?_) ", " columns
  refine .push_bind <| .push_bind <| .push_bind <| ?_
  cases after.isEmpty
  case false => exact .push rfl
  case true => exact .done (by simp)

theorem writes_buildOnConflict (conflict : OnConflict) :
    Writes cx [] (buildOnConflict conflict) (renderOnConflict cx conflict) := by
  refine .context <| .push_bind <| .bind_ok
    (g := if conflict.target.isEmpty then [] else Fragment.words " " ++ columnList cx conflict.target) ?_ ?_
  · cases conflict.target.isEmpty
    case true => exact .done rfl
    case false => exact .push_bind <| .last_ok (writes_names conflict.target) rfl
  · rw [renderOnConflict]
    cases conflict.action
    case doNothing => exact .push rfl
    case update columns =>
      dsimp only
      by_cases h : (conflict.target.isEmpty || columns.isEmpty) = true
      case pos =>
        rw [if_pos h, if_pos h]
        exact .throw _
      case neg =>
        rw [if_neg h, if_neg h]
        exact .push_bind <| .last_ok (writes_buildConflictUpdate _ _ columns) (by simp)

theorem writes_buildOnDuplicateKey (table : TableId) (action : ConflictAction) :
    Writes cx [] (buildOnDuplicateKey table action) (renderOnDuplicateKey cx table action) := by
  refine .context ?_
  unfold renderOnDuplicateKey
  cases action
  all_goals
    dsimp only
    split
    case isTrue => exact .throw _
    case isFalse => exact .push_bind <| .last_ok (writes_buildConflictUpdate _ _ _) rfl

theorem writes_buildConflict (table : TableId) (conflict : Option OnConflict) :
    Writes cx [] (buildConflict table conflict) (renderConflict cx table conflict) := by
  cases conflict
  case none => exact .done rfl
  case some conflict =>
    refine .context <| .require ?_
    cases cx.dialect.upsertStyle
    case onConflict => exact writes_buildOnConflict conflict
    case onDuplicateKey => exact writes_buildOnDuplicateKey table conflict.action
    case unsupported => exact .throw _

theorem writes_build (i : Insert) : Writes cx [] i.build (i.render cx) :=
  .context <| .push_bind <| .push_bind <|
    .bind (writes_buildValues i.columns i.rows) fun _ _ =>
    .bind (writes_buildConflict i.table i.onConflict) fun _ _ =>
    .last (writes_buildReturning i.returning) fun _ _ => rfl

end Insert

theorem Update.renderValues_eq (cx : Context) (values : List (ColumnId × Column)) :
    renderValues cx values = values.mapM fun (id, value) => do
      return Fragment.name (cx.catalog.columnName id) ++ Fragment.words " = " ++
        (← value.render cx (cx.catalog.columnType? id)) := by
  induction values
  case nil => rfl
  case cons x r ih =>
    rw [renderValues, ih, List.mapM_cons, bind_assoc]
    rfl

theorem Update.writes_build (u : Update) : Writes cx [] u.build (u.render cx) := by
  have hvalues : Writes cx [] (u.values |> each ", " fun (id, value) => do
      name (cx.catalog.columnName id)
      words " = "
      value.build (cx.catalog.columnType? id)) ((renderValues cx u.values).map (Fragment.joined ", ")) := by
    rw [renderValues_eq]
    exact .each (fun x => .push_bind <| .push_bind <| .last (x.2.writes_build cx _) fun _ _ => rfl) ", " u.values
  rw [build, render]
  split
  case isTrue => exact .throw _
  case isFalse =>
    refine .context <| .check fun _ _ => .push_bind ?_
    refine .bind (writes_buildDmlLimit .top .limitWithUpdate "UPDATE with LIMIT" u.limit) fun _ _ => ?_
    refine .push_bind <| .push_bind <| .bindMap hvalues fun _ _ => ?_
    refine .bind (Predicate.writes_after " WHERE " (u.predicate.writes_build cx)) fun _ _ => ?_
    refine .bind (writes_buildDmlLimit .suffix .limitWithUpdate "UPDATE with LIMIT" u.limit) fun _ _ => ?_
    exact .last (writes_buildReturning u.returning) fun _ _ => rfl

theorem Delete.writes_build (s : Delete) : Writes cx [] s.build (s.render cx) :=
  .context <| .push_bind <|
    .bind (writes_buildDmlLimit .top .limitWithDelete "DELETE with LIMIT" s.limit) fun _ _ =>
    .push_bind <| .push_bind <|
    .bind (Predicate.writes_after " WHERE " (s.predicate.writes_build cx)) fun _ _ =>
    .bind (writes_buildDmlLimit .suffix .limitWithDelete "DELETE with LIMIT" s.limit) fun _ _ =>
    .last (writes_buildReturning s.returning) fun _ _ => rfl

namespace SchemaOp

theorem writes_buildDefault (column : ColumnDef) :
    Writes cx [] (buildDefault column) (renderDefault cx column) := by
  unfold buildDefault renderDefault
  cases column.default
  case none => exact .done rfl
  case some default =>
    cases default
    case literal v => exact .context <| .push_bind <| .last (.pushed _) fun _ _ => rfl
    case expression sql => exact .push_bind (.push rfl)
    case client => exact .done rfl

theorem writes_buildColumn (column : ColumnDef) : Writes cx [] (buildColumn column) (renderColumn cx column) := by
  refine .context <| .check fun _ _ => .push_bind <| .push_bind <| .push_bind <|
    .bind (writes_buildDefault column) fun default _ => ?_
  refine .bind_ok (.when_words _ _) <| .last_ok (.when_words _ _) ?_
  cases column.nullable <;> cases declaresKey cx.dialect column <;> rfl

theorem writes_buildKey (t : TableDef) : Writes cx [] (buildKey t) (.ok (renderKey cx t)) := by
  refine .context ?_
  rw [renderKey]
  cases t.keyColumns.any (declaresKey cx.dialect)
  case false => exact .push_bind <| .last_ok (.names _) rfl
  case true => exact .done rfl

theorem writes_buildForeignKey (key : ForeignKey) :
    Writes cx [] (buildForeignKey key) (renderForeignKey cx key) :=
  .context <| .check fun _ _ => .push_bind <| .push_bind <| .push_bind <| .bind_ok (.names _) <| .push_bind <|
    .push_bind <| .push_bind <| .last_ok (.names _) rfl

theorem writes_buildGuard (wanted : Bool) (c : Capability) (operation phrase : String) :
    Writes cx [] (buildGuard wanted c operation phrase) (renderGuard cx wanted c operation phrase) :=
  .when wanted (.require (.push rfl))

theorem writes_buildCreateTable (t : TableDef) (ifNotExists : Bool) :
    Writes cx [] (buildCreateTable t ifNotExists) (renderCreateTable cx t ifNotExists) := by
  refine .context <| .check fun _ _ => .push_bind <| .bind (writes_buildGuard _ _ _ _) fun guard _ => ?_
  refine .push_bind <| .push_bind <| .push_bind ?_
  refine .bindMap (.each writes_buildColumn ", " t.columns) fun columns _ => ?_
  refine .bind_ok (writes_buildKey t) <| .bindMap (.forM writes_buildForeignKey t.foreignKeys) fun keys _ => ?_
  exact .push (by simp [Fragment.parenthesised, Fragment.words])

theorem writes_buildCreateIndex (t : TableDef) (index : IndexDef) (ifNotExists : Bool) :
    Writes cx [] (buildCreateIndex t index ifNotExists) (renderCreateIndex cx t index ifNotExists) :=
  .context <| .check fun _ _ => .push_bind <| .bind_ok (.when_words _ _) <| .push_bind <|
    .bind (writes_buildGuard _ _ _ _) fun _ _ => .push_bind <| .push_bind <| .push_bind <| .push_bind <|
    .last_ok (.names _) rfl

theorem writes_build (op : SchemaOp) : Writes cx [] op.build (op.render cx) := by
  cases op
  case createTable id ifNotExists =>
    refine .context ?_
    rw [render]
    cases cx.catalog.table? id
    case none => exact .throw _
    case some t => exact writes_buildCreateTable t ifNotExists
  case dropTable id ifExists =>
    exact .context <| .push_bind <| .bind (writes_buildGuard _ _ _ _) fun _ _ => .push rfl
  case createIndex id position ifNotExists =>
    refine .context ?_
    rw [render]
    cases cx.catalog.table? id
    case none => exact .throw _
    case some t =>
      dsimp only
      cases t.indices[position]?
      case none => exact .throw _
      case some index => exact writes_buildCreateIndex t index ifNotExists

end SchemaOp

end

end PolySql
