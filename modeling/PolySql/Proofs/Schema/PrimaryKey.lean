import PolySql.Proofs.Catalog.Growth
import PolySql.Proofs.Schema.Creation

namespace PolySql

namespace SchemaOp

variable {d : Dialect} {t : TableDef} {column : ColumnDef} {catalog : Catalog} {home : TableId}

-- SQLite alone makes the clause of a counting column declare the key.
theorem declaresKey_eq_true (hd : d ∈ Dialect.builtins) (hint : column.autoIncrement = true → column.type.isInt = true) :
    declaresKey d column = true ↔ d.name = "sqlite" ∧ column.autoIncrement = true := by
  have hclause (w : IntWidth) : (d.autoIncrement (ColumnType.intDataType w)).declaresKey = true ↔ d.name = "sqlite" := by
    revert d
    cases w <;> decide
  rw [declaresKey, autoIncrement?]
  split
  case h_1 w hauto htype => simp [hauto, hclause w]
  case h_2 hnone =>
    rw [Option.any_none]
    refine iff_of_false Bool.false_ne_true fun h => ?_
    obtain ⟨w, hw⟩ : ∃ w, column.type = .int w := by
      have := hint h.2
      cases htype : column.type
      case int w => exact ⟨w, rfl⟩
      all_goals simp [htype, ColumnType.isInt] at this
    exact hnone w h.2 hw

theorem declaredKeys_eq_singleton (hd : d ∈ Dialect.builtins) (ht : t.WellFormed catalog home) :
    declaredKeys d t = [t.keyColumns.map (d.storedName ·.name)] ↔
      (d.name = "sqlite" → ∀ column ∈ t.columns, column.autoIncrement = true → t.keyColumns = [column]) := by
  have hdeclares {column : ColumnDef} (h : column ∈ t.columns) :
      declaresKey d column = true ↔ d.name = "sqlite" ∧ column.autoIncrement = true :=
    declaresKey_eq_true hd (ht.counted_int column h)
  have hone : (t.columns.filter (declaresKey d)).length ≤ 1 := by
    have := List.countP_mono_left (p := declaresKey d) (q := (·.autoIncrement)) fun column h hkey => ((hdeclares h).mp hkey).2
    rw [List.countP_eq_length_filter, List.countP_eq_length_filter] at this
    exact Nat.le_trans this ht.counted
  rw [declaredKeys]
  constructor
  case mp =>
    intro hkeys hname column hcolumn hauto
    have hmem : column ∈ t.columns.filter (declaresKey d) :=
      List.mem_filter.mpr ⟨hcolumn, (hdeclares hcolumn).mpr ⟨hname, hauto⟩⟩
    obtain ⟨other, hother⟩ := List.length_eq_one_iff.mp (Nat.le_antisymm hone (List.length_pos_of_mem hmem))
    obtain rfl : column = other := by simpa [hother] using hmem
    rw [hother] at hkeys
    split at hkeys
    case isFalse => simp at hkeys
    case isTrue hany =>
      simp only [List.map_cons, List.map_nil, List.append_nil, List.cons.injEq, and_true] at hkeys
      obtain ⟨last, hlast, -⟩ := List.map_eq_singleton_iff.mp hkeys.symm
      have hkey : last ∈ t.columns.filter (declaresKey d) := by
        refine List.mem_filter.mpr ⟨mem_of_mem_keyColumns (by simp [hlast]), ?_⟩
        simpa [hlast] using hany
      obtain rfl : last = column := by simpa [hother] using hkey
      exact hlast
  case mpr =>
    intro hall
    cases hdeclaring : t.columns.filter (declaresKey d)
    case nil =>
      have hnone : t.keyColumns.any (declaresKey d) = false :=
        List.any_eq_false.mpr fun column h => List.filter_eq_nil_iff.mp hdeclaring column (mem_of_mem_keyColumns h)
      rw [hnone]
      rfl
    case cons column rest =>
      obtain ⟨hcolumn, hkey⟩ := List.mem_filter.mp (hdeclaring ▸ List.mem_cons_self : column ∈ _)
      obtain ⟨hname, hauto⟩ := (hdeclares hcolumn).mp hkey
      obtain rfl : rest = [] := by simpa [hdeclaring] using hone
      rw [hall hname column hcolumn hauto]
      simp [hkey]

end SchemaOp

-- The text of a table declares its key as the catalog has it, once and with its columns in their order, unless a
-- counting column on SQLite is not the whole of the key: the clause of such a column makes it a key by itself, besides
-- the one that the table has or in its place.
theorem SchemaOp.createTable_declaredKeys {ds : List TableDecl} {cx : Context} (hcx : cx.dialect ∈ Dialect.builtins)
    (hcatalog : cx.catalog = .ofDecls ds) {id : TableId} (ht : cx.catalog.table? id = some t)
    (hdefault : t.HasExpressions cx.dialect) {ifNotExists : Bool}
    (h : (Statement.schema (.createTable id ifNotExists)).compile cx = .ok command) :
    ∃ text, cx.dialect.tableText? command = some text ∧ text.name = cx.dialect.storedName t.name ∧
      text.columns = t.columns.map (cx.dialect.storedName ·.name) ∧ text.keys = declaredKeys cx.dialect t ∧
      (text.keys = [t.keyColumns.map (cx.dialect.storedName ·.name)] ↔
        (cx.dialect.name = "sqlite" → ∀ column ∈ t.columns, column.autoIncrement = true → t.keyColumns = [column])) := by
  have htable : t.WellFormed cx.catalog id := by
    rw [hcatalog] at ht ⊢
    exact (Catalog.wellFormed_ofDecls ds).tables id t ht
  exact ⟨_, tableText?_compile hcx ht htable hdefault h, rfl, rfl, rfl, declaredKeys_eq_singleton hcx htable⟩

theorem SchemaOp.createTable_declaredKeys_of_pair :
    let column (name : String) (auto : Bool) (default : Option ColumnDefault) : ColumnDef :=
      ⟨name, .int .bits32, false, auto, false, default⟩
    let tasks : TableDecl := ⟨"tasks", [column "project" false none, column "number" true none,
      column "weight" false (some (.expression "LENGTH('a, b') + 1"))], ["project", "number"], [], []⟩
    let cx : Context := .new (.ofDecls [tasks]) .postgres none
    ∃ t command, cx.catalog.table? 0 = some t ∧
      t.HasExpressions cx.dialect ∧ (Statement.schema (.createTable 0 false)).compile cx = .ok command ∧
      command.sql = "CREATE TABLE tasks (project INT NOT NULL, number SERIAL NOT NULL, " ++
        "weight INT DEFAULT LENGTH('a, b') + 1 NOT NULL, PRIMARY KEY (project, number))" ∧
      ∃ text, cx.dialect.tableText? command = some text ∧ text.keys = [["project", "number"]] := by
  intro column tasks cx
  have ht : cx.catalog.table? 0 = some ⟨"tasks", tasks.columns, [0, 1], [], []⟩ := rfl
  have hdefault : TableDef.HasExpressions ⟨"tasks", tasks.columns, [0, 1], [], []⟩ cx.dialect := by
    have hexpression : cx.dialect.isExpression "LENGTH('a, b') + 1" = true := by decide +kernel
    simp only [TableDef.HasExpressions, tasks, List.forall_mem_cons]
    refine ⟨nofun, nofun, ?_, by simp⟩
    rintro _ ⟨⟩
    exact hexpression
  have hsql : ((Statement.schema (.createTable 0 false)).compile cx).toOption.map (·.sql) =
      some ("CREATE TABLE tasks (project INT NOT NULL, number SERIAL NOT NULL, " ++
        "weight INT DEFAULT LENGTH('a, b') + 1 NOT NULL, PRIMARY KEY (project, number))") := by
    decide +kernel
  obtain ⟨command, hcommand, hsql⟩ := Result.map_toOption_eq_some.mp hsql
  have hnotSqlite : ¬cx.dialect.name = "sqlite" := by decide
  have hmember : cx.dialect ∈ Dialect.builtins := by simp [cx, Context.new, Dialect.builtins]
  have hcatalog : cx.catalog = .ofDecls [tasks] := rfl
  obtain ⟨text, htext, -, -, -, hkeys⟩ := createTable_declaredKeys hmember hcatalog ht hdefault hcommand
  refine ⟨_, command, ht, hdefault, hcommand, hsql, text, htext, ?_⟩
  rw [hkeys.mpr fun h => absurd h hnotSqlite]
  decide

-- On SQLite the same key loses a column, and a key without the counting column gets a second one beside it.
theorem SchemaOp.declaredKeys_on_sqlite :
    let column (name : String) (auto : Bool) : ColumnDef := ⟨name, .int .bits32, false, auto, false, none⟩
    let tasks (key : List String) : Context :=
      .new (.ofDecls [⟨"tasks", [column "project" false, column "number" true], key, [], []⟩]) .sqlite none
    let command (cx : Context) := ((Statement.schema (.createTable 0 false)).compile cx).toOption
    (command (tasks ["project", "number"])).map (·.sql) =
        some "CREATE TABLE tasks (project INTEGER NOT NULL, number INTEGER PRIMARY KEY AUTOINCREMENT)" ∧
      ((command (tasks ["project", "number"])).bind Dialect.sqlite.tableText?).map (·.keys) = some [["number"]] ∧
      (command (tasks ["project"])).map (·.sql) =
        some "CREATE TABLE tasks (project INTEGER NOT NULL, number INTEGER PRIMARY KEY AUTOINCREMENT, PRIMARY KEY (project))" ∧
      ((command (tasks ["project"])).bind Dialect.sqlite.tableText?).map (·.keys) = some [["number"], ["project"]] := by
  decide +kernel

end PolySql
