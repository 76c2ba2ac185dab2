import PolySql.Proofs.Batch.Insertion
import PolySql.Proofs.Batch.Updating
import PolySql.Proofs.Query.Simplifying
import PolySql.Proofs.Query.Strays
import PolySql.Proofs.Statement.Gaps

namespace PolySql

open Fragment

-- The NaNs and infinities among the values of columns that do not take them up.
def Cells.strays (cx : Context) (entries : List (ColumnId × Column)) : List Float :=
  entries.flatMap fun x => x.2.strays cx (cx.catalog.columnType? x.1)

theorem Cells.strays_cons (cx : Context) (x : ColumnId × Column) (r : List (ColumnId × Column)) :
    Cells.strays cx (x :: r) = x.2.strays cx (cx.catalog.columnType? x.1) ++ Cells.strays cx r :=
  List.flatMap_cons

-- The NaNs and infinities that get into a statement, in the order of its text.
def Statement.strays (cx : Context) : Statement → List Float
  | select s => s.strays cx
  | insert i => i.rows.flatMap (fun row => Cells.strays cx (i.columns.zip row)) ++
      Column.allStrays cx.unqualified none i.returning
  | update u => Cells.strays cx u.values ++ u.predicate.strays cx ++ Column.allStrays cx.unqualified none u.returning
  | delete s => s.predicate.strays cx ++ Column.allStrays cx.unqualified none s.returning
  | raw _ | schema _ => []

section

variable {cx : Context}

theorem carries_renderDmlLimit (place : DmlLimitStyle) (c : Capability) (operation : String) (limit : Option Int64) :
    Carries [] (renderDmlLimit cx place c operation limit) := by
  cases limit
  case none => exact .ok rfl
  case some n =>
    refine (Yields.trivial _).bind fun _ _ => ?_
    split
    case isFalse => exact .ok rfl
    case isTrue =>
      cases place
      case top => exact (carries_rowCount _ n).bind fun _ h => .ok (by simp [h])
      case suffix => exact (carries_limitClause n).bind fun _ h => .ok (by simp [h])

theorem carries_renderReturning (returning : List Column) :
    Carries (Column.allStrays cx.unqualified none returning) (renderReturning cx returning) := by
  cases returning
  case nil => exact .ok rfl
  case cons a r =>
    refine (Yields.trivial _).bind fun _ _ => ?_
    exact (Column.carryAll_renderAll cx.unqualified none (a :: r)).bind fun _ h => .ok (by simp [h])

omit cx in
theorem strays_of_forall₂ {α : Type} {g : α → List Float} {as : List α} {fs : List Fragment}
    (h : List.Forall₂ (fun a f => f.strays = g a) as fs) : fs.flatMap Fragment.strays = as.flatMap g := by
  induction h
  case nil => rfl
  case cons h _ ih => rw [List.flatMap_cons, List.flatMap_cons, h, ih]

theorem Cells.Render.strays_eq {entries : List (ColumnId × Column)} {fs : List Fragment}
    (h : Cells.Render cx entries fs) : fs.flatMap Fragment.strays = Cells.strays cx entries :=
  strays_of_forall₂ (h.imp fun x f hf => x.2.carries_render cx _ f hf)

namespace Insert

@[simp]
theorem strays_columnList (columns : List ColumnId) : (columnList cx columns).strays = [] := by
  simp [columnList, List.flatMap_map]

theorem strays_conflictUpdate (before after : String) (columns : List ColumnId) :
    (conflictUpdate cx before after columns).strays = [] := by
  rw [conflictUpdate, strays_joined, List.flatMap_map, List.flatMap_eq_nil_iff]
  intro id _
  split <;> simp

theorem carries_renderOnConflict (conflict : OnConflict) : Carries [] (renderOnConflict cx conflict) := by
  unfold renderOnConflict
  dsimp only
  split
  case h_1 => exact .ok (by split <;> simp)
  case h_2 =>
    split
    case isTrue => exact .error _
    case isFalse => exact .ok (by split <;> simp [strays_conflictUpdate])

theorem carries_renderOnDuplicateKey (table : TableId) (action : ConflictAction) :
    Carries [] (renderOnDuplicateKey cx table action) := by
  unfold renderOnDuplicateKey
  cases action
  all_goals
    dsimp only
    split
    case isTrue => exact .error _
    case isFalse => exact .ok (by simp [strays_conflictUpdate])

theorem carries_renderConflict (table : TableId) (conflict : Option OnConflict) :
    Carries [] (renderConflict cx table conflict) := by
  cases conflict
  case none => exact .ok rfl
  case some conflict =>
    refine (Yields.trivial _).bind fun _ _ => ?_
    split
    case h_1 => exact carries_renderOnConflict conflict
    case h_2 => exact carries_renderOnDuplicateKey table conflict.action
    case h_3 => exact .error _

theorem carries_renderRow (columns : List ColumnId) (row : List Column) :
    Carries (Cells.strays cx (columns.zip row)) (renderRow cx columns row) :=
  (Yields.self _).bind fun fs hfs => .ok (by simp [(renderCells_eq_ok hfs).strays_eq])

theorem carries_renderValues (columns : List ColumnId) (rows : List (List Column)) :
    Carries (rows.flatMap fun row => Cells.strays cx (columns.zip row)) (renderValues cx columns rows) := by
  have hrows : CarryAll (rows.flatMap fun row => Cells.strays cx (columns.zip row))
      (rows.mapM (renderRow cx columns)) :=
    (Yields.forall₂_mapM (carries_renderRow columns) rows).mono fun _ => strays_of_forall₂
  unfold renderValues
  split
  case isTrue hempty =>
    have hnone : (rows.flatMap fun row => Cells.strays cx (columns.zip row)) = [] := by
      simp [List.isEmpty_iff.mp hempty, Cells.strays]
    rw [hnone]
    dsimp only
    split
    case isTrue => exact .error _
    case isFalse =>
      split
      case h_1 => exact .ok rfl
      case h_2 => exact .error _
  case isFalse =>
    dsimp only
    split
    case isTrue => exact (Yields.trivial _).bind fun _ _ => hrows.bind fun _ h => .ok (by simp [h])
    case isFalse => exact hrows.bind fun _ h => .ok (by simp [h])

theorem carries_render (i : Insert) : Carries ((Statement.insert i).strays cx) (i.render cx) := by
  refine (carries_renderValues i.columns i.rows).bind fun _ hvalues => ?_
  refine (carries_renderConflict i.table i.onConflict).bind fun _ hconflict => ?_
  refine (carries_renderReturning i.returning).bind fun _ hreturning => .ok ?_
  simp [Statement.strays, hvalues, hconflict, hreturning]

end Insert

namespace Update

theorem carryAll_renderValues (values : List (ColumnId × Column)) :
    CarryAll (Cells.strays cx values) (renderValues cx values) := by
  induction values
  case nil => exact .ok rfl
  case cons x r ih =>
    exact (x.2.carries_render cx _).bind fun _ hf => ih.bind fun _ h => .ok (by simp [Cells.strays_cons, hf, h])

theorem carries_render (u : Update) : Carries ((Statement.update u).strays cx) (u.render cx) := by
  unfold render
  split
  case isTrue => exact .error _
  case isFalse =>
    refine (Yields.trivial _).bind fun _ _ => ?_
    refine (carries_renderDmlLimit _ _ _ u.limit).bind fun _ htop => ?_
    refine (carryAll_renderValues u.values).bind fun _ hvalues => ?_
    refine (u.predicate.carries_renderAfter _ (u.predicate.carries_render cx)).bind fun _ hfilter => ?_
    refine (carries_renderDmlLimit _ _ _ u.limit).bind fun _ hlimit => ?_
    refine (carries_renderReturning u.returning).bind fun _ hreturning => .ok ?_
    simp [Statement.strays, htop, hvalues, hfilter, hlimit, hreturning]

end Update

theorem Delete.carries_render (s : Delete) : Carries ((Statement.delete s).strays cx) (s.render cx) := by
  refine (carries_renderDmlLimit _ _ _ s.limit).bind fun _ htop => ?_
  refine (s.predicate.carries_renderAfter _ (s.predicate.carries_render cx)).bind fun _ hfilter => ?_
  refine (carries_renderDmlLimit _ _ _ s.limit).bind fun _ hlimit => ?_
  refine (carries_renderReturning s.returning).bind fun _ hreturning => .ok ?_
  simp [Statement.strays, htop, hfilter, hlimit, hreturning]

-- Cells with parameters of columns that the catalog has carry none.
theorem Cells.strays_params {entries : List (ColumnId × Value)}
    (h : ∀ e ∈ entries, (cx.catalog.columnType? e.1).isSome = true) :
    Cells.strays cx (entries.map fun e => (e.1, .param e.2)) = [] := by
  simp only [Cells.strays, List.flatMap_map, List.flatMap_eq_nil_iff]
  exact fun e he => if_pos (h e he)

end

theorem Statement.Renders.strays_eq (h : Renders cx s f) : f.strays = s.strays cx := by
  cases h
  case select s h => exact s.carries_render cx f h
  case insert i h => exact i.carries_render f h
  case update u h => exact u.carries_render f h
  case delete s h => exact s.carries_render f h

-- The predicate of a batch compares columns that the catalog has with parameters.
theorem BatchUpdate.strays_keyPredicate {keys : List (ColumnId × Value)}
    (h : ∀ k ∈ keys, (cx.catalog.columnType? k.1).isSome = true) : (keyPredicate keys).strays cx = [] := by
  have hboth {p q : Predicate} (hp : p.strays cx = []) (hq : q.strays cx = []) : (p.both q).strays cx = [] := by
    rcases p.both_eq q with h | h | h | h <;> simp [h, hp, hq, Predicate.strays]
  refine List.foldlRecOn (motive := fun p : Predicate => p.strays cx = []) keys _ rfl fun p hp k hk => ?_
  exact hboth hp (if_pos (h k hk))

theorem BatchUpdate.strays_rowUpdate {b : BatchUpdate} (h : b.rowUpdate row = .ok u)
    (hcolumns : ∀ id ∈ b.setColumns ++ b.keyColumns, (cx.catalog.columnType? id).isSome = true) :
    (Statement.update u).strays cx = [] := by
  rw [List.forall_mem_append] at hcolumns
  rw [rowUpdate] at h
  split at h
  case isTrue => cases h
  case isFalse =>
    cases h
    rw [filter_new, Statement.strays, Cells.strays_params, strays_keyPredicate]
    · rfl
    · exact fun k hk => hcolumns.2 _ (List.of_mem_zip hk).1
    · exact fun e he => hcolumns.1 _ (List.of_mem_zip he).1

namespace BatchInsert

-- The columns of a batch are given, or columns of the table.
theorem mem_columns {c : Catalog} {id : ColumnId} (h : (BatchInsert.new c table columns given draws).1 = .ok b)
    (hid : id ∈ b.insert.columns) : id ∈ columns ∨ id ∈ c.columnIds table := by
  have h : ((Insert.multi c table columns (cells given) draws).1).map BatchInsert.mk = .ok b := h
  obtain ⟨i, hi, rfl⟩ := Result.map_eq_ok.mp h
  have hn := Insert.not_faulty_of_multi hi
  rw [Insert.multi_of_not_faulty hn] at hi
  cases hi
  exact (List.mem_append.mp hid).imp_right fun hid => (Insert.mem_generated hid).1

theorem strays_part {b : BatchInsert} (hb : b.Holds all) (rows : List (List Value))
    (hcolumns : ∀ id ∈ b.insert.columns, (cx.catalog.columnType? id).isSome = true) :
    (b.part rows).strays cx = [] := by
  rw [part, Statement.strays, hb.returning_eq]
  refine (List.append_nil _).trans (List.flatMap_eq_nil_iff.mpr ?_)
  rw [cells, List.forall_mem_map]
  intro row _
  dsimp only
  rw [List.zip_map_right]
  exact Cells.strays_params fun e he => hcolumns _ (List.of_mem_zip he).1

end BatchInsert

namespace Statement

variable (cx : Context)

-- The NaNs and infinities in a compiled statement, as parameters or as literals, are those that are converted without
-- the type of a column. The cells and keys of batches all have one.
theorem strays_of_compile :
    (∀ (s : Statement) (command : Command), s.isBuilt = true → s.compile cx = .ok command →
      ∃ f, Renders cx s f ∧ command = ⟨f.text cx.dialect 0, f.params⟩ ∧ f.strays = s.strays cx) ∧
    (∀ (table : TableId) (columns : List ColumnId) (given : List (List Value)) (draws : Draws) (b : BatchInsert)
      (commands : List Command), (∀ id ∈ columns, (cx.catalog.columnType? id).isSome = true) →
      (BatchInsert.new cx.catalog table columns given draws).1 = .ok b → b.compile cx = .ok commands →
      ∀ command ∈ commands, ∃ rows f, Renders cx (b.part rows) f ∧
        command = ⟨f.text cx.dialect 0, f.params⟩ ∧ f.strays = []) ∧
    (∀ (b : BatchUpdate) (batch : CompiledBatch),
      (∀ id ∈ b.setColumns ++ b.keyColumns, (cx.catalog.columnType? id).isSome = true) → b.compile cx = .ok batch →
      ∃ fs : List Fragment, batch.paramSets = fs.map params ∧ fs.head?.map (·.text cx.dialect 0) = some batch.sql ∧
        List.Forall₂ (fun row f => ∃ u, b.rowUpdate row = .ok u ∧ Renders cx (.update u) f ∧ f.strays = [])
          b.rows fs) := by
  refine ⟨fun s command hs h => ?built, fun table columns given draws b commands hcolumns hb h => ?inserted,
    fun b batch hcolumns h => ?updated⟩
  case built =>
    obtain ⟨f, hf, hcommand⟩ := exists_renders hs h
    exact ⟨f, hf, hcommand, hf.strays_eq⟩
  case inserted =>
    obtain ⟨rows, hrows⟩ := BatchInsert.exists_built hb
    have hknown : ∀ id ∈ b.insert.columns, (cx.catalog.columnType? id).isSome = true := by
      intro id hid
      rcases BatchInsert.mem_columns hb hid with hid | hid
      case inl => exact hcolumns id hid
      case inr => simpa [Catalog.columnType?] using Catalog.isSome_column? hid
    rw [hrows.compile_eq] at h
    refine Result.forall_of_mapM h fun part _ command hpart => ?_
    obtain ⟨f, hf, hcommand⟩ := exists_renders rfl hpart
    exact ⟨part, f, hf, hcommand, hf.strays_eq.trans (BatchInsert.strays_part hrows.toHolds part hknown)⟩
  case updated =>
    obtain ⟨hkeys, -, -, command, commands, -, -, hall, rfl⟩ := BatchUpdate.of_compile h
    obtain ⟨fs, hfs, -, hcommands⟩ := Result.exists_map_of_mapM (g := fun f => ⟨f.text cx.dialect 0, f.params⟩)
      (s := fun row f => ∃ u, b.rowUpdate row = .ok u ∧ Renders cx (.update u) f ∧ f.strays = [])
      (p := fun _ => True) (Result.mapM_eq_ok.mpr hall) fun row _ command hrow => by
        obtain ⟨-, u, -, -, hu, hcompile, -⟩ := BatchUpdate.of_compileRow hkeys hrow
        obtain ⟨f, hf, hcommand⟩ := exists_renders rfl hcompile
        exact ⟨f, ⟨u, hu, hf, hf.strays_eq.trans (BatchUpdate.strays_rowUpdate hu hcolumns)⟩, trivial, hcommand⟩
    refine ⟨fs, ?_, ?_, hfs⟩
    · simp [hcommands]
    · simpa [eq_comm] using congrArg (fun commands => commands.head?.map Command.sql) hcommands

-- A condition on a column of doubles, and two batches that store integers in it.
theorem strays_of_rates :
    let rates : TableDef := ⟨"rates", [⟨"id", .int .bits32, false, false, false, none⟩,
      ⟨"rate", .float .double, false, false, false, none⟩], [0], [], []⟩
    let cx : Context := .new ⟨[rates]⟩ .postgres none
    let s : Statement := .select { Select.new (.physical 0 none) [.literal (.float Binary64.notANumber)] with
      predicate := .comparison .eq (.physical ⟨0, 1⟩ none) (.param (.int 3)) }
    let b : BatchUpdate := ⟨0, [⟨0, 1⟩], [⟨0, 0⟩], [[.int 3, .int 1], [.int 4, .int 2]]⟩
    (∃ command f, s.compile cx = .ok command ∧ command.sql = "SELECT NaN FROM rates WHERE rates.rate = $1" ∧
      Renders cx s f ∧ command = ⟨f.text .postgres 0, f.params⟩ ∧ f.strays = [Binary64.notANumber]) ∧
    (∃ b commands,
      (BatchInsert.new cx.catalog 0 [⟨0, 0⟩, ⟨0, 1⟩] [[.int 1, .int 3], [.int 2, .int 4]] .none).1 = .ok b ∧
      b.compile cx = .ok commands ∧
      commands.map (·.sql) = ["INSERT INTO rates (id, rate) VALUES ($1, $2), ($3, $4)"] ∧
      ∀ command ∈ commands, ∃ rows f, Renders cx (b.part rows) f ∧ command = ⟨f.text .postgres 0, f.params⟩ ∧
        f.strays = []) ∧
    (∃ batch, b.compile cx = .ok batch ∧ batch.sql = "UPDATE rates SET rate = $1 WHERE rates.id = $2" ∧
      ∃ fs : List Fragment, batch.paramSets = fs.map params ∧
        List.Forall₂ (fun row f => ∃ u, b.rowUpdate row = .ok u ∧ Renders cx (.update u) f ∧ f.strays = [])
          b.rows fs) := by
  intro rates cx s b
  refine ⟨?selected, ?inserted, ?updated⟩
  case selected =>
    have hsql : (s.compile cx).toOption.map (·.sql) = some "SELECT NaN FROM rates WHERE rates.rate = $1" := by
      decide +kernel
    obtain ⟨command, hcommand, hsql⟩ := Result.map_toOption_eq_some.mp hsql
    obtain ⟨f, hf, htext, hstrays⟩ := (strays_of_compile cx).1 s command rfl hcommand
    exact ⟨command, f, hcommand, hsql, hf, htext, hstrays.trans (by decide +kernel)⟩
  case inserted =>
    let b : BatchInsert := ⟨0, [⟨0, 0⟩, ⟨0, 1⟩], cells [[.int 1, .int 3], [.int 2, .int 4]], [], none⟩
    have hnew : (BatchInsert.new cx.catalog 0 [⟨0, 0⟩, ⟨0, 1⟩] [[.int 1, .int 3], [.int 2, .int 4]] .none).1 = .ok b :=
      rfl
    have hsql : (b.compile cx).toOption.map (·.map (·.sql)) =
        some ["INSERT INTO rates (id, rate) VALUES ($1, $2), ($3, $4)"] := by
      decide +kernel
    obtain ⟨commands, hcommands, hsql⟩ := Result.map_toOption_eq_some.mp hsql
    exact ⟨b, commands, hnew, hcommands, hsql,
      (strays_of_compile cx).2.1 0 _ _ .none b commands (by decide +kernel) hnew hcommands⟩
  case updated =>
    have hsql : (b.compile cx).toOption.map (·.sql) = some "UPDATE rates SET rate = $1 WHERE rates.id = $2" := by
      decide +kernel
    obtain ⟨batch, hbatch, hsql⟩ := Result.map_toOption_eq_some.mp hsql
    obtain ⟨fs, hparams, -, hall⟩ := (strays_of_compile cx).2.2 b batch (by decide +kernel) hbatch
    exact ⟨batch, hbatch, hsql, fs, hparams, hall⟩

-- Without a column the text gets a word that is no number, and an infinity is bound.
theorem carries_notANumber :
    let people : TableDef := ⟨"people", [⟨"id", .int .bits32, false, false, false, none⟩], [0], [], []⟩
    let cx : Context := .new ⟨[people]⟩ .postgres none
    let s : Statement := .select (.new (.physical 0 none)
      [.literal (.float Binary64.notANumber), .param (.float (Binary64.infinity false))])
    ∃ f, Renders cx s f ∧ s.compile cx = .ok ⟨"SELECT NaN, $1 FROM people", f.params⟩ ∧
      f.strays = [Binary64.notANumber, Binary64.infinity false] ∧
      Binary64.isFinite Binary64.notANumber = false ∧ Binary64.isFinite (Binary64.infinity false) = false := by
  intro people cx s
  have hsql : (s.compile cx).toOption.map (·.sql) = some "SELECT NaN, $1 FROM people" := by
    decide +kernel
  obtain ⟨command, hcommand, hsql⟩ := Result.map_toOption_eq_some.mp hsql
  obtain ⟨f, hf, rfl⟩ := exists_renders rfl hcommand
  exact ⟨f, hf, hsql ▸ hcommand, hf.strays_eq.trans (by decide +kernel), rfl, rfl⟩

end Statement

end PolySql
