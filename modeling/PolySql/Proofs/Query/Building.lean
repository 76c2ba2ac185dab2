import PolySql.Proofs.Query.Unqualified
import PolySql.Proofs.Sql.Building

namespace PolySql

open Build

namespace Select

def buildTop (style : LimitStyle) (limit offset : Option Int64) : Build Unit :=
  match usesTop style limit offset, limit with
  | true, some n => do
    words "TOP ("
    pushed (Context.limitCount n)
    words ") "
  | _, _ => done

def buildLimitClause (n : Int64) : Build Unit := do
  words "LIMIT "
  pushed (Context.limitCount n)

def buildOffsetClause (n : Int64) : Build Unit := do
  words "OFFSET "
  pushed (Context.offsetCount n)

def buildLimit : Option Int64 → Build Unit
  | some n => do
    words " "
    buildLimitClause n
  | none => done

def buildUnbounded : Option Int64 → Option String → Build Unit
  | none, some all => do
    words " LIMIT "
    words all
  | _, _ => done

def buildLimitOffset (unbounded : Option String) (limit offset : Option Int64) : Build Unit := do
  buildLimit limit
  match offset with
  | some n => do
    buildUnbounded limit unbounded
    words " "
    buildOffsetClause n
  | none => done

def buildOffsetRows (requiresOrder : Bool) : Option Int64 → Build Unit
  | some n => do
    words " "
    buildOffsetClause n
    words " ROWS"
  | none => when requiresOrder (words " OFFSET 0 ROWS")

def buildFetch : Option Int64 → Build Unit
  | some n => do
    words " FETCH NEXT "
    pushed (Context.limitCount n)
    words " ROWS ONLY"
  | none => done

def buildOffsetFetch (requiresOrder ordered : Bool) (limit offset : Option Int64) : Build Unit :=
  if limit.isNone && offset.isNone then done
  else do
    when (requiresOrder && !ordered) (words " ORDER BY (SELECT NULL)")
    buildOffsetRows requiresOrder offset
    buildFetch limit

def buildWindow (style : LimitStyle) (ordered : Bool) (limit offset : Option Int64) : Build Unit :=
  match style with
  | .limitOffset unbounded => buildLimitOffset unbounded limit offset
  | .offsetFetch requiresOrder _ =>
    if usesTop style limit offset then done else buildOffsetFetch requiresOrder ordered limit offset

end Select

-- How a function is written around its arguments.
def Function.buildCall (kind : FunctionKind) (distinct : Bool) (args : List Column)
    (arguments : String → Build Unit) : Build Unit := do
  let cx ← context
  let name := cx.dialect.functionName kind
  match kind with
  | .currentTimestamp => words name
  | .concat =>
    match cx.dialect.concatStyle with
    | .operator => do
      words "("
      arguments " || "
      words ")"
    | .function => applied name
  | .count => if args.isEmpty then do words name; words "(*)" else applied name
  | _ => applied name
where
  applied (name : String) : Build Unit := do
    words name
    words "("
    when distinct (words "DISTINCT ")
    arguments ", "
    words ")"

mutual

@[simp]
def Column.build (hint : Option ColumnType) : Column → Build Unit
  | .physical id aliasName => do
    let cx ← context
    column (aliasName.getD (cx.catalog.tableName id.table)) (cx.catalog.columnName id)
  | .param v => do
    let cx ← context
    pushed (cx.param hint v)
  | .literal v => do
    let cx ← context
    pushed (cx.literal hint v)
  | .subSelect s => do
    words "("
    s.build
    words ")"
  | .star (some table) => do
    let cx ← context
    name (cx.catalog.tableName table)
    words "."
    words "*"
  | .star none => words "*"
  | .null => words "NULL"
  | .function f => f.build

@[simp]
def Column.buildAll (separator : String) (hint : Option ColumnType) : List Column → Build Unit
  | [] => done
  | a :: r => do
    a.build hint
    when (!r.isEmpty) (words separator)
    Column.buildAll separator hint r

@[simp]
def Function.build : Function → Build Unit
  | ⟨kind, args, distinct, window⟩ => do
    let cx ← context
    let hint := (Function.mk kind args distinct none).argumentType? cx.catalog
    Function.buildCall kind distinct args fun separator => Column.buildAll separator hint args
    match window with
    | some w => do
      require .windowFunctions "window function"
      words " OVER ("
      w.build
      words ")"
    | none =>
      if kind = .rowNumber then throw (.compilation "ROW_NUMBER requires an OVER clause") else done

@[simp]
def Window.build : Window → Build Unit
  | ⟨partition, order⟩ => do
    when (!partition.isEmpty) do
      words "PARTITION BY "
      Column.buildAll ", " none partition
      when (!order.isEmpty) (words " ")
    when (!order.isEmpty) do
      words "ORDER BY "
      OrderItem.buildAll order

@[simp]
def OrderItem.build : OrderItem → Build Unit
  | ⟨column, direction⟩ => do
    column.build none
    words (" " ++ direction.text)

@[simp]
def OrderItem.buildAll : List OrderItem → Build Unit
  | [] => done
  | a :: r => do
    a.build
    when (!r.isEmpty) (words ", ")
    OrderItem.buildAll r

@[simp]
def Predicate.build : Predicate → Build Unit
  | .always => do
    let cx ← context
    words cx.dialect.trueText
  | .never => do
    let cx ← context
    words cx.dialect.falseText
  | .comparison op a b =>
    match op, a.isNull, b.isNull with
    | .eq, _, true => do
      a.build none
      words " IS NULL"
    | .eq, true, _ => do
      b.build none
      words " IS NULL"
    | .ne, _, true => do
      a.build none
      words " IS NOT NULL"
    | .ne, true, _ => do
      b.build none
      words " IS NOT NULL"
    | op, _, _ => do
      let cx ← context
      a.build (b.type? cx.catalog)
      words (" " ++ op.text ++ " ")
      b.build (a.type? cx.catalog)
  | .inList column list =>
    match list with
    | [] => do
      let cx ← context
      words cx.dialect.falseText
    | list => do
      let cx ← context
      column.build none
      words " IN "
      words "("
      Column.buildAll ", " (column.type? cx.catalog) list
      words ")"
  | .between column low high => do
    let cx ← context
    let hint := column.type? cx.catalog
    column.build none
    words " BETWEEN "
    low.build hint
    words " AND "
    high.build hint
  | .like a b caseSensitive => do
    let cx ← context
    if caseSensitive || cx.supports .caseInsensitiveLike then do
      a.build (b.type? cx.catalog)
      words (" " ++ (if caseSensitive then "LIKE" else "ILIKE") ++ " ")
      b.build (a.type? cx.catalog)
    else do
      words "LOWER("
      a.build none
      words ") LIKE LOWER("
      b.build none
      words ")"
  | .startsWith a b => do
    let cx ← context
    a.build none
    words " LIKE "
    match cx.dialect.concatStyle with
    | .operator => do
      b.build none
      words " || '%'"
    | .function => do
      words "CONCAT("
      b.build none
      words ", '%')"
  | .endsWith a b => do
    let cx ← context
    a.build none
    words " LIKE "
    match cx.dialect.concatStyle with
    | .operator => do
      words "'%' || "
      b.build none
    | .function => do
      words "CONCAT('%', "
      b.build none
      words ")"
  | .existsRow s => do
    words "EXISTS "
    words "("
    s.build
    words ")"
  | .and p q => do
    words "("
    p.build
    words (" " ++ "AND" ++ " ")
    q.build
    words ")"
  | .or p q => do
    words "("
    p.build
    words (" " ++ "OR" ++ " ")
    q.build
    words ")"
  | .not p => do
    words "NOT"
    words "("
    p.build
    words ")"

@[simp]
def Table.build : Table → Build Unit
  | .physical id aliasName => do
    let cx ← context
    let table := cx.catalog.tableName id
    name table
    match aliasName with
    | some a => when (a ≠ table) do
      words cx.dialect.aliasSeparator
      name a
    | none => done
  | .join kind left right condition => do
    left.build
    words kind.text
    right.build
    words " ON "
    condition.build
  | .subSelect s aliasName => do
    let cx ← context
    words "("
    s.build
    words ")"
    words cx.dialect.aliasSeparator
    name aliasName

@[simp]
def Select.build : Select → Build Unit
  | ⟨table, columns, distinct, predicate, groups, having, items, offset, limit, forUpdate⟩ =>
    if columns.isEmpty then throw (.compilation "SELECT must project at least one column")
    else do
      let cx ← context
      words "SELECT "
      when distinct (words "DISTINCT ")
      Select.buildTop cx.dialect.limitStyle limit offset
      Column.buildAll ", " none columns
      words " FROM "
      table.build
      when (!predicate.isAlways) do
        words " WHERE "
        predicate.build
      Column.buildGrouping groups
      Predicate.buildHaving having
      OrderItem.buildOrder items
      Select.buildWindow cx.dialect.limitStyle items.isSome limit offset
      when forUpdate do
        require .selectForUpdate "SELECT ... FOR UPDATE"
        words " FOR UPDATE"

@[simp]
def Predicate.buildHaving : Option Predicate → Build Unit
  | none => done
  | some p => when (!p.isAlways) do
    words " HAVING "
    p.build

@[simp]
def Column.buildGrouping : Option (List Column) → Build Unit
  | none => done
  | some columns => do
    words " "
    words "GROUP BY "
    Column.buildAll ", " none columns

@[simp]
def OrderItem.buildOrder : Option (List OrderItem) → Build Unit
  | none => done
  | some items => do
    words " "
    words "ORDER BY "
    OrderItem.buildAll items

end

section

variable {cx : Context}

namespace Select

theorem writes_buildTop (style : LimitStyle) (limit offset : Option Int64) :
    Writes cx [] (buildTop style limit offset) (renderTop style limit offset) := by
  unfold buildTop renderTop
  cases usesTop style limit offset <;> cases limit
  case true.some n => exact .push_bind (.bind (.pushed _) fun f _ => .push rfl)
  all_goals exact .done rfl

theorem writes_buildLimitClause (n : Int64) : Writes cx [] (buildLimitClause n) (limitClause n) :=
  .push_bind (.last (.pushed _) fun _ _ => rfl)

theorem writes_buildOffsetClause (n : Int64) : Writes cx [] (buildOffsetClause n) (offsetClause n) :=
  .push_bind (.last (.pushed _) fun _ _ => rfl)

theorem writes_buildLimit (limit : Option Int64) : Writes cx [] (buildLimit limit) (renderLimit limit) := by
  cases limit
  case none => exact .done rfl
  case some n => exact .push_bind (.last (writes_buildLimitClause n) fun _ _ => rfl)

theorem writes_buildLimitOffset (unbounded : Option String) (limit offset : Option Int64) :
    Writes cx [] (buildLimitOffset unbounded limit offset) (renderLimitOffset unbounded limit offset) := by
  have hhead : Writes cx [] (buildLimit limit) (renderLimit limit) := writes_buildLimit limit
  have hrest (n : Int64) : Writes cx [] (buildOffsetClause n) (offsetClause n) := writes_buildOffsetClause n
  cases offset
  case none => exact .bind hhead fun _ _ => .done rfl
  case some n =>
    cases limit <;> cases unbounded
    case none.some all =>
      exact .bind hhead fun _ _ => .bind_ok (.push_bind (.push rfl)) (.push_bind (.last (hrest n) fun _ _ => rfl))
    all_goals exact .bind hhead fun _ _ => .bind_ok (.done rfl) (.push_bind (.last (hrest n) fun _ _ => rfl))

theorem writes_buildOffsetRows (requiresOrder : Bool) (offset : Option Int64) :
    Writes cx [] (buildOffsetRows requiresOrder offset) (renderOffsetRows requiresOrder offset) := by
  cases offset
  case none => exact .when_words _ _
  case some n => exact .push_bind (.bind (writes_buildOffsetClause n) fun _ _ => .push rfl)

theorem writes_buildFetch (limit : Option Int64) : Writes cx [] (buildFetch limit) (renderFetch limit) := by
  cases limit
  case none => exact .done rfl
  case some n => exact .push_bind (.bind (.pushed _) fun _ _ => .push rfl)

theorem writes_buildOffsetFetch (requiresOrder ordered : Bool) (limit offset : Option Int64) :
    Writes cx [] (buildOffsetFetch requiresOrder ordered limit offset)
      (renderOffsetFetch requiresOrder ordered limit offset) := by
  rw [buildOffsetFetch, renderOffsetFetch]
  split
  case isTrue => exact .done rfl
  case isFalse =>
    exact .bind_ok (.when_words _ _) (.bind (writes_buildOffsetRows requiresOrder offset) fun _ _ =>
      .last (writes_buildFetch limit) fun _ _ => rfl)

theorem writes_buildForUpdate (forUpdate : Bool) :
    Writes cx [] (when forUpdate do require .selectForUpdate "SELECT ... FOR UPDATE"; words " FOR UPDATE")
      (renderForUpdate cx forUpdate) :=
  .when forUpdate (.require (.push rfl))

theorem writes_buildWindow (style : LimitStyle) (ordered : Bool) (limit offset : Option Int64) :
    Writes cx [] (buildWindow style ordered limit offset) (renderWindow style ordered limit offset) := by
  cases style
  case limitOffset unbounded => exact writes_buildLimitOffset unbounded limit offset
  case offsetFetch requiresOrder topAlone =>
    rw [buildWindow, renderWindow]
    split
    case isTrue => exact .done rfl
    case isFalse => exact writes_buildOffsetFetch requiresOrder ordered limit offset

end Select

theorem Column.isEmpty_of_renderAll (h : Column.renderAll cx hint cs = .ok fs) : fs.isEmpty = cs.isEmpty := by
  cases cs
  case nil =>
    cases h
    rfl
  case cons a r =>
    rw [Column.renderAll] at h
    obtain ⟨head, -, h⟩ := Result.bind_eq_ok.mp h
    obtain ⟨tail, -, h⟩ := Result.bind_eq_ok.mp h
    cases h
    rfl

theorem OrderItem.isEmpty_of_renderAll (h : OrderItem.renderAll cx os = .ok fs) : fs.isEmpty = os.isEmpty := by
  cases os
  case nil =>
    cases h
    rfl
  case cons a r =>
    rw [OrderItem.renderAll] at h
    obtain ⟨head, -, h⟩ := Result.bind_eq_ok.mp h
    obtain ⟨tail, -, h⟩ := Result.bind_eq_ok.mp h
    cases h
    rfl

namespace Function

theorem writes_applied {arguments : String → Build Unit} {rs : Result (List Fragment)} (distinct : Bool)
    (h : ∀ separator, Writes cx [] (arguments separator) (rs.map (Fragment.joined separator))) (name : String) :
    Writes cx [] (buildCall.applied distinct arguments name)
      (rs >>= fun fs => return call.applied distinct fs (Fragment.words name)) :=
  .push_bind <| .push_bind <| .bind_ok (.when_words _ _) <| .bindMap (h ", ") fun _ _ => .push rfl

theorem writes_buildCall {arguments : String → Build Unit} (kind : FunctionKind) (distinct : Bool) (args : List Column)
    (h : ∀ separator, Writes cx [] (arguments separator)
      ((Column.renderAll cx ((Function.mk kind args distinct none).argumentType? cx.catalog) args).map
        (Fragment.joined separator))) :
    Writes cx [] (buildCall kind distinct args arguments)
      (renderArguments cx kind args distinct >>= fun fs => return call cx kind distinct fs) := by
  have happlied := writes_applied distinct h
  refine .context ?_
  cases kind
  case currentTimestamp => exact .push rfl
  case concat =>
    dsimp only [call]
    cases cx.dialect.concatStyle
    case operator => exact .push_bind (.bindMap (h " || ") fun _ _ => .push rfl)
    case function => exact happlied _
  case count =>
    cases args
    case nil => exact .push_bind (.push rfl)
    case cons a r =>
      refine .push_bind <| .push_bind <| .bind_ok (.when_words _ _) <| .bindMap (h ", ") fun fs hfs => .push ?_
      simp [call, call.applied, Column.isEmpty_of_renderAll hfs]
  all_goals exact happlied _

end Function

theorem Predicate.build_comparison_of_some {isNegated : Bool} (h : op.nullTest? a b = some (isNegated, c)) :
    (comparison op a b).build = (do
      c.build none
      words (nullTest isNegated)) := by
  cases op <;> cases ha : a.isNull <;> cases hb : b.isNull <;> simp [Comparison.nullTest?, ha, hb] at h
  all_goals
    obtain ⟨rfl, rfl⟩ := h
    simp [ha, hb, nullTest]

theorem Predicate.build_comparison_of_none (h : op.nullTest? a b = none) :
    (comparison op a b).build = (do
      let cx ← context
      a.build (b.type? cx.catalog)
      words (" " ++ op.text ++ " ")
      b.build (a.type? cx.catalog)) := by
  cases op <;> cases ha : a.isNull <;> cases hb : b.isNull <;> simp [Comparison.nullTest?, ha, hb] at h
  all_goals simp [ha, hb]

section

variable {a b c : Column} (ha : ∀ hint, Writes cx [] (a.build hint) (a.render cx hint))

include ha

namespace Predicate

theorem writes_inList (hlist : ∀ hint, Writes cx [] (Column.buildAll ", " hint list)
      ((Column.renderAll cx hint list).map (Fragment.joined ", "))) :
    Writes cx [] (inList a list).build ((inList a list).render cx) := by
  cases list
  case nil => exact .context (.push rfl)
  case cons x r =>
    rw [Predicate.render, Predicate.build]
    · exact .context <| .bind (ha _) fun _ _ => .push_bind <| .push_bind <| .bindMap (hlist _) fun _ _ =>
        .push (by simp [Fragment.parenthesised, Fragment.words])
    all_goals simp

variable (hb : ∀ hint, Writes cx [] (b.build hint) (b.render cx hint))

include hb

theorem writes_comparison (op : Comparison) :
    Writes cx [] (comparison op a b).build ((comparison op a b).render cx) := by
  rcases hn : op.nullTest? a b with _ | ⟨isNegated, c⟩
  case none =>
    rw [render_comparison_of_none hn, build_comparison_of_none hn]
    refine .context ?_
    exact .bind (ha _) fun _ _ => .push_bind <| .last (hb _) fun _ _ => rfl
  case some =>
    have hc : Writes cx [] (c.build none) (c.render cx none) := by
      rcases Comparison.eq_of_nullTest? hn with rfl | rfl
      case inl => exact ha none
      case inr => exact hb none
    rw [render_comparison_of_some hn, build_comparison_of_some hn]
    exact .bind hc fun _ _ => .push rfl

theorem writes_between (hc : ∀ hint, Writes cx [] (c.build hint) (c.render cx hint)) :
    Writes cx [] (between a b c).build ((between a b c).render cx) := by
  rw [Predicate.render, Predicate.build]
  exact .context <| .bind (ha _) fun _ _ => .push_bind <| .bind (hb _) fun _ _ => .push_bind <|
    .last (hc _) fun _ _ => rfl

theorem writes_like (caseSensitive : Bool) :
    Writes cx [] (like a b caseSensitive).build ((like a b caseSensitive).render cx) := by
  rw [Predicate.render, Predicate.build]
  refine .context ?_
  split
  case isTrue => exact .bind (ha _) fun _ _ => .push_bind <| .last (hb _) fun _ _ => rfl
  case isFalse =>
    exact .push_bind <| .bind (ha _) fun _ _ => .push_bind <| .bind (hb _) fun _ _ => .push rfl

theorem writes_startsWith : Writes cx [] (startsWith a b).build ((startsWith a b).render cx) := by
  rw [Predicate.render, Predicate.build]
  refine .context <| .bind (ha _) fun _ _ => .push_bind ?_
  unfold Context.withSuffix
  cases cx.dialect.concatStyle
  case operator => exact .bind (hb _) fun _ _ => .push (by simp)
  case function => exact .push_bind <| .bind (hb _) fun _ _ => .push (by simp)

theorem writes_endsWith : Writes cx [] (endsWith a b).build ((endsWith a b).render cx) := by
  rw [Predicate.render, Predicate.build]
  refine .context <| .bind (ha _) fun _ _ => .push_bind ?_
  unfold Context.withStart
  cases cx.dialect.concatStyle
  case operator => exact .push_bind <| .last (hb _) fun _ _ => by simp [pure, Except.pure]
  case function => exact .push_bind <| .bind (hb _) fun _ _ => .push (by simp)

end Predicate

end

theorem Predicate.writes_after {p : Predicate} (opening : String) (h : Writes cx [] p.build (p.render cx)) :
    Writes cx [] (when (!p.isAlways) do words opening; p.build) (p.renderAfter cx opening) := by
  rw [renderAfter]
  cases p.isAlways
  case false => exact .push_bind (.last h fun _ _ => rfl)
  case true => exact .done rfl

end

theorem Window.writes_partition {partition : List Column} (order : List OrderItem)
    (h : Writes cx [] (Column.buildAll ", " none partition)
      ((Column.renderAll cx none partition).map (Fragment.joined ", "))) :
    Writes cx [] (when (!partition.isEmpty) do
        words "PARTITION BY "
        Column.buildAll ", " none partition
        when (!order.isEmpty) (words " "))
      ((Column.renderAll cx none partition).map fun columns =>
        (if partition.isEmpty then [] else Fragment.words "PARTITION BY " ++ Fragment.joined ", " columns) ++
          if partition.isEmpty || order.isEmpty then [] else Fragment.words " ") := by
  cases partition
  case nil => exact .done rfl
  case cons c r =>
    refine .map <| .push_bind <| .bindMap h fun columns _ => ?_
    cases order
    case nil => exact .done (by simp)
    case cons => exact .push (by simp)

theorem Window.writes_order {order : List OrderItem}
    (h : Writes cx [] (OrderItem.buildAll order) ((OrderItem.renderAll cx order).map (Fragment.joined ", "))) :
    Writes cx [] (when (!order.isEmpty) do words "ORDER BY "; OrderItem.buildAll order)
      ((OrderItem.renderAll cx order).map fun items => if order.isEmpty then [] else PolySql.orderBy items) := by
  cases order
  case nil => exact .done rfl
  case cons o r => exact .map <| .push_bind <| .lastMap h fun _ _ => rfl

theorem Table.writes_physical (id : TableId) (aliasName : Option String) :
    Writes cx [] (physical id aliasName).build ((physical id aliasName).render cx) := by
  refine .context <| .push_bind ?_
  cases aliasName
  case none => exact .done rfl
  case some a =>
    rw [render]
    by_cases h : a = cx.catalog.tableName id
    case pos =>
      simp only [h, ne_eq, not_true_eq_false, decide_false, if_true]
      exact .done rfl
    case neg =>
      simp only [h, ne_eq, not_false_eq_true, decide_true, if_false]
      exact .push_bind <| .push rfl

mutual

theorem Column.writes_build (cx : Context) (hint : Option ColumnType) (c : Column) :
    Writes cx [] (c.build hint) (c.render cx hint) := by
  cases c
  case physical id aliasName => exact .context (.column _ _)
  case param v => exact .context (.pushed _)
  case literal v => exact .context (.pushed _)
  case subSelect s =>
    rw [Column.build, Column.render]
    exact .push_bind <| .bind (s.writes_build cx) fun _ _ => .push rfl
  case star table =>
    cases table
    case none => exact .push rfl
    case some => exact .context <| .push_bind <| .push_bind <| .push rfl
  case null => exact .push rfl
  case function f =>
    rw [Column.build, Column.render]
    exact f.writes_build cx
termination_by structural c

theorem Column.writes_buildAll (cx : Context) (separator : String) (hint : Option ColumnType) (cs : List Column) :
    Writes cx [] (Column.buildAll separator hint cs)
      ((Column.renderAll cx hint cs).map (Fragment.joined separator)) := by
  cases cs
  case nil => exact .done rfl
  case cons a r =>
    rw [Column.buildAll, Column.renderAll]
    exact .cons (a.writes_build cx hint) (Column.writes_buildAll cx separator hint r)
      fun _ => Column.isEmpty_of_renderAll
termination_by structural cs

theorem Function.writes_build (cx : Context) (f : Function) : Writes cx [] f.build (f.render cx) := by
  cases f
  case mk kind args distinct window =>
    rw [Function.build.eq_def, Function.render_eq]
    refine .context <| .bind (Function.writes_buildCall kind distinct args fun separator =>
      Column.writes_buildAll cx separator _ args) fun call _ => ?_
    cases window
    case none =>
      rw [Function.windowed]
      dsimp only
      split
      case isTrue => exact .throw _
      case isFalse => exact .done rfl
    case some w =>
      exact .require <| .push_bind <| .bind (w.writes_build cx) fun _ _ => .push rfl
termination_by structural f

theorem Window.writes_build (cx : Context) (w : Window) : Writes cx [] w.build (w.render cx) := by
  cases w
  case mk partition order =>
    rw [Window.build, Window.render]
    refine .bindMap (Window.writes_partition order (Column.writes_buildAll cx ", " none partition)) fun columns hc => ?_
    refine .lastMap (Window.writes_order (OrderItem.writes_buildAll cx order)) fun items hi => ?_
    simp [Column.isEmpty_of_renderAll hc, OrderItem.isEmpty_of_renderAll hi, pure, Except.pure]
termination_by structural w

theorem OrderItem.writes_build (cx : Context) (o : OrderItem) : Writes cx [] o.build (o.render cx) := by
  cases o
  case mk column direction =>
    rw [OrderItem.build, OrderItem.render]
    exact .bind (column.writes_build cx none) fun _ _ => .push rfl
termination_by structural o

theorem OrderItem.writes_buildAll (cx : Context) (os : List OrderItem) :
    Writes cx [] (OrderItem.buildAll os) ((OrderItem.renderAll cx os).map (Fragment.joined ", ")) := by
  cases os
  case nil => exact .done rfl
  case cons a r =>
    rw [OrderItem.buildAll, OrderItem.renderAll]
    exact .cons (a.writes_build cx) (OrderItem.writes_buildAll cx r) fun _ => OrderItem.isEmpty_of_renderAll
termination_by structural os

theorem Predicate.writes_build (cx : Context) (p : Predicate) : Writes cx [] p.build (p.render cx) := by
  cases p
  case always => exact .context (.push rfl)
  case never => exact .context (.push rfl)
  case comparison op a b =>
    exact Predicate.writes_comparison (fun hint => a.writes_build cx hint) (fun hint => b.writes_build cx hint) op
  case inList column list =>
    exact Predicate.writes_inList (fun hint => column.writes_build cx hint)
      fun hint => Column.writes_buildAll cx ", " hint list
  case between column low high =>
    exact Predicate.writes_between (fun hint => column.writes_build cx hint) (fun hint => low.writes_build cx hint)
      fun hint => high.writes_build cx hint
  case like a b caseSensitive =>
    exact Predicate.writes_like (fun hint => a.writes_build cx hint) (fun hint => b.writes_build cx hint) caseSensitive
  case startsWith a b =>
    exact Predicate.writes_startsWith (fun hint => a.writes_build cx hint) fun hint => b.writes_build cx hint
  case endsWith a b =>
    exact Predicate.writes_endsWith (fun hint => a.writes_build cx hint) fun hint => b.writes_build cx hint
  case existsRow s =>
    rw [Predicate.build, Predicate.render]
    exact .push_bind <| .push_bind <| .bind (s.writes_build cx) fun _ _ => .push rfl
  case and p q =>
    rw [Predicate.build, Predicate.render]
    exact .push_bind <| .bind (p.writes_build cx) fun _ _ => .push_bind <| .bind (q.writes_build cx) fun _ _ =>
      .push rfl
  case or p q =>
    rw [Predicate.build, Predicate.render]
    exact .push_bind <| .bind (p.writes_build cx) fun _ _ => .push_bind <| .bind (q.writes_build cx) fun _ _ =>
      .push rfl
  case not p =>
    rw [Predicate.build, Predicate.render]
    exact .push_bind <| .push_bind <| .bind (p.writes_build cx) fun _ _ => .push rfl
termination_by structural p

theorem Table.writes_build (cx : Context) (t : Table) : Writes cx [] t.build (t.render cx) := by
  cases t
  case physical id aliasName => exact Table.writes_physical id aliasName
  case join kind left right condition =>
    rw [Table.build, Table.render]
    exact .bind (left.writes_build cx) fun _ _ => .push_bind <| .bind (right.writes_build cx) fun _ _ => .push_bind <|
      .last (condition.writes_build cx) fun _ _ => rfl
  case subSelect s aliasName =>
    rw [Table.build, Table.render]
    refine .context <| .push_bind <| .bind (s.writes_build cx) fun _ _ => .push_bind <| .push_bind <| .push ?_
    simp [Table.aliased, Fragment.parenthesised, Fragment.words, Fragment.name]
termination_by structural t

theorem Select.writes_build (cx : Context) (s : Select) : Writes cx [] s.build (s.render cx) := by
  cases s
  case mk table columns distinct predicate groups having items offset limit forUpdate =>
    rw [Select.build, Select.render_eq]
    split
    case isTrue => exact .throw _
    case isFalse =>
      refine .context <| .push_bind <| .bind_ok (.when_words _ _) ?_
      refine .bind (Select.writes_buildTop _ limit offset) fun top _ => ?_
      refine .bindMap (Column.writes_buildAll cx ", " none columns) fun projected _ => .push_bind ?_
      refine .bind (table.writes_build cx) fun source _ => ?_
      refine .bind (Predicate.writes_after " WHERE " (predicate.writes_build cx)) fun filter _ => ?_
      refine .bind (Column.writes_buildGrouping cx groups) fun grouping _ => ?_
      refine .bind (Predicate.writes_buildHaving cx having) fun groupFilter _ => ?_
      refine .bind (OrderItem.writes_buildOrder cx items) fun order _ => ?_
      refine .bind (Select.writes_buildWindow _ items.isSome limit offset) fun window _ => ?_
      exact .last (Select.writes_buildForUpdate forUpdate) fun _ _ => rfl
termination_by structural s

theorem Predicate.writes_buildHaving (cx : Context) (p : Option Predicate) :
    Writes cx [] (Predicate.buildHaving p) (Predicate.renderHaving cx p) := by
  cases p
  case none => exact .done rfl
  case some p => exact Predicate.writes_after " HAVING " (p.writes_build cx)
termination_by structural p

theorem Column.writes_buildGrouping (cx : Context) (cs : Option (List Column)) :
    Writes cx [] (Column.buildGrouping cs) (Column.renderGrouping cx cs) := by
  cases cs
  case none => exact .done rfl
  case some cs =>
    rw [Column.buildGrouping, Column.renderGrouping]
    exact .push_bind <| .push_bind <| .lastMap (Column.writes_buildAll cx ", " none cs) fun _ _ => by
      simp [groupBy, pure, Except.pure]
termination_by structural cs

theorem OrderItem.writes_buildOrder (cx : Context) (os : Option (List OrderItem)) :
    Writes cx [] (OrderItem.buildOrder os) (OrderItem.renderOrder cx os) := by
  cases os
  case none => exact .done rfl
  case some os =>
    rw [OrderItem.buildOrder, OrderItem.renderOrder]
    exact .push_bind <| .push_bind <| .lastMap (OrderItem.writes_buildAll cx os) fun _ _ => by
      simp [orderBy, pure, Except.pure]
termination_by structural os

end

end PolySql
