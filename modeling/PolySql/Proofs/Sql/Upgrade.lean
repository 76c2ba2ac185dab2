import PolySql.Proofs.Sql.Outcome
import PolySql.Proofs.Sql.Persistence
import PolySql.Statement.Batch

namespace PolySql

section

variable {cx : Context} {newer : Option Version} (h : cx.Upgrades newer)

include h

theorem persists_renderReturning (returning : List Column) :
    Persists cx.dialect.name (renderReturning cx returning) (renderReturning (cx.on newer) returning) := by
  rw [renderReturning, renderReturning]
  split
  case isTrue => exact .refl _
  case isFalse =>
    exact (Context.persists_require h _ _).bind fun _ =>
      (Column.persists_renderAll h.unqualified none returning).bind fun _ => .refl _

theorem persists_renderDmlLimit (place : DmlLimitStyle) (c : Capability) (operation : String) (limit : Option Int64) :
    Persists cx.dialect.name (renderDmlLimit cx place c operation limit)
      (renderDmlLimit (cx.on newer) place c operation limit) := by
  cases limit
  case none => exact .refl _
  case some n => exact (Context.persists_require h c operation).bind fun _ => .refl _

namespace Insert

theorem persists_renderCells (columns : List ColumnId) (values : List Column) :
    Persists cx.dialect.name (renderCells cx columns values) (renderCells (cx.on newer) columns values) := by
  induction columns generalizing values
  case nil => exact .refl _
  case cons id ids ih =>
    cases values
    case nil => exact .refl _
    case cons value values => exact (value.persists_render h _).bind fun _ => (ih values).bind fun _ => .refl _

theorem persists_renderRow (columns : List ColumnId) (row : List Column) :
    Persists cx.dialect.name (renderRow cx columns row) (renderRow (cx.on newer) columns row) :=
  (persists_renderCells h columns row).bind fun _ => .refl _

theorem persists_renderValues (columns : List ColumnId) (rows : List (List Column)) :
    Persists cx.dialect.name (renderValues cx columns rows) (renderValues (cx.on newer) columns rows) := by
  have htuples := Persists.mapM (persists_renderRow h columns) rows
  rw [renderValues, renderValues]
  split
  case isTrue => exact .refl _
  case isFalse =>
    split
    case isTrue => exact (Context.persists_require h _ _).bind fun _ => htuples.bind fun _ => .refl _
    case isFalse => exact htuples.bind fun _ => .refl _

theorem persists_renderConflict (table : TableId) (conflict : Option OnConflict) :
    Persists cx.dialect.name (renderConflict cx table conflict) (renderConflict (cx.on newer) table conflict) := by
  cases conflict
  case none => exact .refl _
  case some conflict => exact (Context.persists_require h _ _).bind fun _ => .refl _

theorem persists_render (i : Insert) : Persists cx.dialect.name (i.render cx) (i.render (cx.on newer)) :=
  (persists_renderValues h i.columns i.rows).bind fun _ =>
    (persists_renderConflict h i.table i.onConflict).bind fun _ =>
      (persists_renderReturning h i.returning).bind fun _ => .refl _

end Insert

namespace Update

theorem persists_renderValues (values : List (ColumnId × Column)) :
    Persists cx.dialect.name (renderValues cx values) (renderValues (cx.on newer) values) := by
  induction values
  case nil => exact .refl _
  case cons v r ih => exact (v.2.persists_render h _).bind fun _ => ih.bind fun _ => .refl _

theorem persists_render (u : Update) : Persists cx.dialect.name (u.render cx) (u.render (cx.on newer)) := by
  rw [render, render]
  split
  case isTrue => exact .throw_bind _ _ _
  case isFalse =>
    refine (Persists.refl _).bind fun _ => ?_
    refine (persists_renderDmlLimit h _ _ _ u.limit).bind fun top => ?_
    refine (persists_renderValues h u.values).bind fun values => ?_
    refine (Predicate.persists_renderAfter _ (u.predicate.persists_render h)).bind fun filter => ?_
    refine (persists_renderDmlLimit h _ _ _ u.limit).bind fun limit => ?_
    exact (persists_renderReturning h u.returning).bind fun _ => .refl _

end Update

theorem Delete.persists_render (s : Delete) : Persists cx.dialect.name (s.render cx) (s.render (cx.on newer)) := by
  refine (persists_renderDmlLimit h _ _ _ s.limit).bind fun top => ?_
  refine (Predicate.persists_renderAfter _ (s.predicate.persists_render h)).bind fun filter => ?_
  refine (persists_renderDmlLimit h _ _ _ s.limit).bind fun limit => ?_
  exact (persists_renderReturning h s.returning).bind fun _ => .refl _

namespace SchemaOp

theorem persists_renderGuard (wanted : Bool) (c : Capability) (operation phrase : String) :
    Persists cx.dialect.name (renderGuard cx wanted c operation phrase)
      (renderGuard (cx.on newer) wanted c operation phrase) := by
  cases wanted
  case false => exact .refl _
  case true => exact (Context.persists_require h c operation).bind fun _ => .refl _

theorem persists_renderCreateTable (t : TableDef) (ifNotExists : Bool) : Persists cx.dialect.name
    (renderCreateTable cx t ifNotExists) (renderCreateTable (cx.on newer) t ifNotExists) :=
  (Persists.refl _).bind fun _ => (persists_renderGuard h _ _ _ _).bind fun _ => .refl _

theorem persists_renderCreateIndex (t : TableDef) (index : IndexDef) (ifNotExists : Bool) : Persists cx.dialect.name
    (renderCreateIndex cx t index ifNotExists) (renderCreateIndex (cx.on newer) t index ifNotExists) :=
  (Persists.refl _).bind fun _ => (persists_renderGuard h _ _ _ _).bind fun _ => .refl _

theorem persists_render (op : SchemaOp) : Persists cx.dialect.name (op.render cx) (op.render (cx.on newer)) := by
  cases op
  case createTable id ifNotExists =>
    rw [render, render, Context.on_catalog]
    split
    case h_1 t _ => exact persists_renderCreateTable h t ifNotExists
    case h_2 => exact .refl _
  case dropTable id ifExists => exact (persists_renderGuard h _ _ _ _).bind fun _ => .refl _
  case createIndex id position ifNotExists =>
    rw [render, render, Context.on_catalog]
    split
    case h_1 => exact .refl _
    case h_2 t _ =>
      split
      case h_1 index _ => exact persists_renderCreateIndex h t index ifNotExists
      case h_2 => exact .refl _

end SchemaOp

theorem Statement.persists_compile (s : Statement) :
    Persists cx.dialect.name (s.compile cx) (s.compile (cx.on newer)) := by
  cases s
  case select s => exact (s.persists_render h).bind fun _ => .refl _
  case insert i => exact (i.persists_render h).bind fun _ => .refl _
  case update u => exact (u.persists_render h).bind fun _ => .refl _
  case delete s => exact (s.persists_render h).bind fun _ => .refl _
  case raw r => exact .refl _
  case schema op => exact (op.persists_render h).bind fun _ => .refl _

theorem BatchInsert.persists_compile (b : BatchInsert) :
    Persists cx.dialect.name (b.compile cx) (b.compile (cx.on newer)) := by
  have hsize : chunkSize (cx.on newer) b.insert.columns.length = chunkSize cx b.insert.columns.length := by
    rw [chunkSize, chunkSize, h.multiRowInsert_eq]
    rfl
  rw [compile, compile, hsize]
  exact .mapM (fun rows => (Insert.persists_render h _).bind fun _ => .refl _) _

theorem BatchUpdate.persists_compile (b : BatchUpdate) :
    Persists cx.dialect.name (b.compile cx) (b.compile (cx.on newer)) := by
  have hrow (row : List Value) : Persists cx.dialect.name (compileRow cx b row) (compileRow (cx.on newer) b row) := by
    rw [compileRow, compileRow]
    split
    case isTrue => exact .throw_bind _ _ _
    case isFalse => exact (Persists.refl _).bind fun _ => (Update.persists_render h _).bind fun _ => .refl _
  rw [compile, compile]
  split
  case isTrue => exact .throw_bind _ _ _
  case isFalse =>
    split
    case isTrue => exact .throw_bind _ _ _
    case isFalse => exact (Persists.mapM hrow b.rows).bind fun _ => .refl _

end

-- What compiles for a version of the server compiles alike for every later one and for an unknown one, and if it does
-- not compile for an earlier one, then for want of an operation.
def Dialect.OutlivesVersions {α : Type} (d : Dialect) (compile : Option Version → Result α) : Prop :=
  ∀ (v : Version) (w : Option Version), (∀ newer ∈ w, newer.atLeast v = true) →
    (∀ a, compile (some v) = .ok a → compile w = .ok a) ∧
    ∀ a e, compile w = .ok a → compile (some v) = .error e → ∃ operation, e = .unsupported d.name operation

theorem Dialect.outlivesVersions {d : Dialect} (hd : d ∈ builtins) (c : Catalog) {compile : Context → Result α}
    (h : ∀ {cx : Context} {newer}, cx.Upgrades newer → Persists cx.dialect.name (compile cx) (compile (cx.on newer))) :
    d.OutlivesVersions fun v => compile (.new c d v) := by
  intro v w hw
  have hpersists := h (Context.Upgrades.of_atLeast (c := c) hd hw)
  exact ⟨fun a => hpersists.of_ok, fun a e => hpersists.of_error⟩

theorem Statement.compile_outlivesVersions {d : Dialect} (hd : d ∈ Dialect.builtins) (c : Catalog) :
    (∀ s : Statement, d.OutlivesVersions fun v => s.compile (.new c d v)) ∧
      (∀ b : BatchInsert, d.OutlivesVersions fun v => b.compile (.new c d v)) ∧
      ∀ b : BatchUpdate, d.OutlivesVersions fun v => b.compile (.new c d v) :=
  ⟨fun s => d.outlivesVersions hd c fun h => s.persists_compile h,
    fun b => d.outlivesVersions hd c fun h => b.persists_compile h,
    fun b => d.outlivesVersions hd c fun h => b.persists_compile h⟩

theorem Statement.compile_returning :
    let table : TableDef := ⟨"people", [⟨"id", .int .bits32, false, true, false, none⟩], [0], [], []⟩
    let s : Statement := .delete { Delete.new 0 with returning := [.star none] }
    let compile (v : Option Version) := s.compile (.new ⟨[table]⟩ .sqlite v)
    (∃ c, c.sql = "DELETE FROM people RETURNING *" ∧ compile (some ⟨3, 35, 0⟩) = .ok c ∧
      compile (some ⟨3, 45, 1⟩) = .ok c ∧ compile none = .ok c) ∧
    ∃ e, compile (some ⟨3, 34, 2⟩) = .error e ∧ ∃ operation, e = .unsupported "sqlite" operation := by
  intro table s compile
  have hsome : (compile (some ⟨3, 35, 0⟩)).toOption.map (·.sql) = some "DELETE FROM people RETURNING *" := by
    decide +kernel
  obtain ⟨c, hc, hsql⟩ := Result.map_toOption_eq_some.mp hsome
  have he : compile (some ⟨3, 34, 2⟩) = .error (.unsupported "sqlite" "RETURNING") := by rfl
  have hs := (compile_outlivesVersions (d := .sqlite) (by simp [Dialect.builtins]) ⟨[table]⟩).1 s
  refine ⟨⟨c, hsql, hc, (hs _ (some ⟨3, 45, 1⟩) (by decide)).1 c hc, (hs _ none (by decide)).1 c hc⟩, _, he, ?_⟩
  exact (hs _ (some ⟨3, 35, 0⟩) (by decide)).2 c _ hc he

end PolySql
