import PolySql.Dialect.Builtin
import PolySql.Proofs.Batch.UpdateText

namespace PolySql

open Fragment

namespace BatchUpdate

variable {cx : Context} {b : BatchUpdate} {k : ColumnId × Value} {keys entries : List (ColumnId × Value)}
  {row values : List Value} {f : Fragment} {p : Predicate} {command : Command}

def keyEquals (e : ColumnId × Value) : Predicate :=
  .comparison .eq (.physical e.1 none) (.param e.2)

def narrowed (p : Predicate) (e : ColumnId × Value) : Predicate :=
  .and p (keyEquals e)

-- Keys that are equal to the first one are dropped as long as no other has come between.
def merged : List (ColumnId × Value) → List (ColumnId × Value)
  | [] => []
  | k :: keys => k :: keys.dropWhile fun e => k.1 == e.1 && k.2.same e.2

-- The columns of some entries with other values.
def revalued (entries : List (ColumnId × Value)) (values : List Value) : List (ColumnId × Value) :=
  (entries.map (·.1)).zip values

theorem map_fst_revalued (h : storedEntries cx entries = .ok values) :
    (revalued entries values).map (·.1) = entries.map (·.1) :=
  List.map_fst_zip (by simp [length_of_storedEntries h])

theorem map_snd_revalued (h : storedEntries cx entries = .ok values) : (revalued entries values).map (·.2) = values :=
  List.map_snd_zip (by simp [length_of_storedEntries h])

theorem length_revalued (h : storedEntries cx entries = .ok values) :
    (revalued entries values).length = entries.length := by
  simpa using congrArg List.length (map_fst_revalued h)

theorem both_keyEquals (k e : ColumnId × Value) : (keyEquals k).both (keyEquals e) =
    if k.1 == e.1 && k.2.same e.2 then keyEquals k else narrowed (keyEquals k) e := by
  have hsame : (keyEquals k).same (keyEquals e) = (k.1 == e.1 && k.2.same e.2) := by
    simp [keyEquals, Predicate.same, Column.same]
  rw [← hsame]
  rfl

theorem foldl_both_narrowed (p : Predicate) (e : ColumnId × Value) (keys : List (ColumnId × Value)) :
    keys.foldl (fun p e => p.both (keyEquals e)) (narrowed p e) = keys.foldl narrowed (narrowed p e) := by
  induction keys generalizing p e
  case nil => rfl
  case cons e' keys ih => exact ih (narrowed p e) e'

theorem keyPredicate_cons (k : ColumnId × Value) (keys : List (ColumnId × Value)) : keyPredicate (k :: keys) =
    (keys.dropWhile fun e => k.1 == e.1 && k.2.same e.2).foldl narrowed (keyEquals k) := by
  have hfirst : keyPredicate (k :: keys) = keys.foldl (fun p e => p.both (keyEquals e)) (keyEquals k) := rfl
  rw [hfirst]
  induction keys
  case nil => rfl
  case cons e keys ih =>
    rw [List.foldl_cons, both_keyEquals, List.dropWhile_cons]
    split
    case isTrue => exact ih rfl
    case isFalse => rw [foldl_both_narrowed, List.foldl_cons]

theorem render_keyEquals (cx : Context) (e : ColumnId × Value) : (keyEquals e).render cx =
    (cx.stored (cx.catalog.columnType? e.1) e.2).map fun x => keyTest cx (e.1, x) := by
  simp only [keyEquals, Predicate.render, Column.isNull, Column.render, Column.type?, Context.param]
  cases cx.stored (cx.catalog.columnType? e.1) e.2 <;> rfl

theorem render_foldl_narrowed (h : (keys.foldl narrowed p).render cx = .ok f) :
    ∃ g values, p.render cx = .ok g ∧ storedEntries cx keys = .ok values ∧
      f = conjoined (g :: (revalued keys values).map (keyTest cx)) := by
  induction keys generalizing p
  case nil => exact ⟨f, [], h, rfl, rfl⟩
  case cons e keys ih =>
    obtain ⟨g, values, hg, hvalues, rfl⟩ := ih h
    rw [narrowed, Predicate.render, Result.bind_eq_ok] at hg
    obtain ⟨left, hleft, hg⟩ := hg
    obtain ⟨right, hright, ⟨⟩⟩ := Result.bind_eq_ok.mp hg
    rw [render_keyEquals] at hright
    cases hx : cx.stored (cx.catalog.columnType? e.1) e.2
    case error => simp [hx, Except.map] at hright
    case ok x =>
      rw [hx] at hright
      cases hright
      refine ⟨left, x :: values, hleft, ?_, rfl⟩
      rw [storedEntries_cons, hx, hvalues]
      rfl

theorem render_keyPredicate (hk : keys ≠ []) (h : (keyPredicate keys).render cx = .ok f) :
    ∃ values, storedEntries cx (merged keys) = .ok values ∧
      f = conjoined ((revalued (merged keys) values).map (keyTest cx)) := by
  cases keys
  case nil => exact absurd rfl hk
  case cons k keys =>
    rw [keyPredicate_cons] at h
    obtain ⟨g, values, hg, hvalues, rfl⟩ := render_foldl_narrowed h
    rw [render_keyEquals] at hg
    cases hx : cx.stored (cx.catalog.columnType? k.1) k.2
    case error => simp [hx, Except.map] at hg
    case ok x =>
      rw [hx] at hg
      cases hg
      refine ⟨x :: values, ?_, rfl⟩
      rw [merged, storedEntries_cons, hx, hvalues]
      rfl

theorem isAlways_keyPredicate (hk : keys ≠ []) : (keyPredicate keys).isAlways = false := by
  cases keys
  case nil => exact absurd rfl hk
  case cons k keys =>
    rw [keyPredicate_cons]
    have hfold (entries : List (ColumnId × Value)) : ∀ p : Predicate, p.isAlways = false →
        (entries.foldl narrowed p).isAlways = false := by
      induction entries
      case nil => exact fun _ h => h
      case cons e entries ih => exact fun _ _ => ih _ rfl
    exact hfold _ _ rfl

theorem renderValues_params {fs : List Fragment}
    (h : Update.renderValues cx (entries.map fun e => (e.1, .param e.2)) = .ok fs) :
    ∃ values, storedEntries cx entries = .ok values ∧ fs = (revalued entries values).map (assignment cx) := by
  induction entries generalizing fs
  case nil =>
    cases h
    exact ⟨[], rfl, rfl⟩
  case cons e entries ih =>
    obtain ⟨head, hhead, h⟩ := Result.bind_eq_ok.mp h
    obtain ⟨tail, htail, ⟨⟩⟩ := Result.bind_eq_ok.mp h
    obtain ⟨values, hvalues, rfl⟩ := ih htail
    rw [Column.render, Context.param] at hhead
    obtain ⟨x, hx, ⟨⟩⟩ := Result.bind_eq_ok.mp hhead
    refine ⟨x :: values, ?_, rfl⟩
    rw [storedEntries_cons, hx, hvalues]
    rfl

theorem filter_new (table : TableId) (values : List (ColumnId × Column)) (p : Predicate) :
    (Update.new table values).filter p = ⟨table, values, p, [], none⟩ := by
  cases p <;> rfl

theorem render_update {table : TableId} (hk : keys ≠ []) (h : ((Update.new table
    (entries.map fun e => (e.1, .param e.2))).filter (keyPredicate keys)).render cx = .ok f) :
    ∃ values stored, storedEntries cx entries = .ok values ∧ storedEntries cx (merged keys) = .ok stored ∧
      f = updating cx table (revalued entries values) (revalued (merged keys) stored) := by
  rw [filter_new, Update.render] at h
  split at h
  case isTrue => cases h
  case isFalse =>
    obtain ⟨-, -, h⟩ := Result.bind_eq_ok.mp h
    obtain ⟨_, ⟨⟩, h⟩ := Result.bind_eq_ok.mp h
    obtain ⟨sets, hsets, h⟩ := Result.bind_eq_ok.mp h
    obtain ⟨filter, hfilter, h⟩ := Result.bind_eq_ok.mp h
    obtain ⟨_, ⟨⟩, h⟩ := Result.bind_eq_ok.mp h
    obtain ⟨_, ⟨⟩, ⟨⟩⟩ := Result.bind_eq_ok.mp h
    obtain ⟨values, hvalues, rfl⟩ := renderValues_params hsets
    rw [Predicate.renderAfter, isAlways_keyPredicate hk] at hfilter
    obtain ⟨g, hg, ⟨⟩⟩ := Result.bind_eq_ok.mp hfilter
    obtain ⟨stored, hstored, rfl⟩ := render_keyPredicate hk hg
    exact ⟨values, stored, hvalues, hstored, by simp [updating]⟩

-- The keys that the update of a row compares.
def boundKeys (b : BatchUpdate) (row : List Value) : List (ColumnId × Value) :=
  merged (b.keyColumns.zip (row.drop b.setColumns.length))

theorem length_drop_of_width (hwidth : row.length = b.width) :
    (row.drop b.setColumns.length).length = b.keyColumns.length := by
  rw [width] at hwidth
  rw [List.length_drop]
  omega

theorem of_rowUpdate (hk : b.keyColumns ≠ []) (hwidth : row.length = b.width) (hu : b.rowUpdate row = .ok u)
    (hf : u.render cx = .ok f) :
    ∃ values stored, storedRow cx b.setColumns row = .ok values ∧ storedEntries cx (b.boundKeys row) = .ok stored ∧
      f = updating cx b.table (revalued (b.setColumns.zip row) values) (revalued (b.boundKeys row) stored) := by
  have hzip : b.keyColumns.zip (row.drop b.setColumns.length) ≠ [] := by
    rw [ne_eq, List.zip_eq_nil_iff, not_or, ← List.length_eq_zero_iff (l := row.drop _), length_drop_of_width hwidth,
      List.length_eq_zero_iff]
    exact ⟨hk, hk⟩
  rw [rowUpdate] at hu
  split at hu
  case isTrue => cases hu
  case isFalse =>
    cases hu
    exact render_update hzip hf

theorem of_compileRow (hk : b.keyColumns ≠ []) (h : compileRow cx b row = .ok command) :
    row.length = b.width ∧ ∃ u values stored, b.rowUpdate row = .ok u ∧ (Statement.update u).compile cx = .ok command ∧
      storedRow cx b.setColumns row = .ok values ∧ storedEntries cx (b.boundKeys row) = .ok stored ∧
      command.params = values ++ stored ∧ command.sql = (updating cx b.table (revalued (b.setColumns.zip row) values)
        (revalued (b.boundKeys row) stored)).text cx.dialect 0 := by
  rw [compileRow] at h
  split at h
  case isTrue => cases h
  case isFalse hwidth =>
    have hwidth := not_not.mp hwidth
    obtain ⟨u, hu, h⟩ := Result.bind_eq_ok.mp h
    obtain ⟨f, hf, h⟩ := Result.bind_eq_ok.mp h
    have hcompile : (Statement.update u).compile cx = .ok command := Result.bind_eq_ok.mpr ⟨f, hf, h⟩
    obtain ⟨values, stored, hvalues, hstored, rfl⟩ := of_rowUpdate hk hwidth hu hf
    obtain ⟨rfl, -⟩ := Context.of_command h
    refine ⟨hwidth, u, values, stored, hu, hcompile, hvalues, hstored, ?_, rfl⟩
    rw [params_updating, map_snd_revalued hvalues, map_snd_revalued hstored]

theorem map_fst_keys (hwidth : row.length = b.width) :
    (b.keyColumns.zip (row.drop b.setColumns.length)).map (·.1) = b.keyColumns :=
  List.map_fst_zip (Nat.le_of_eq (length_drop_of_width hwidth).symm)

theorem map_fst_sets (hwidth : row.length = b.width) : (b.setColumns.zip row).map (·.1) = b.setColumns := by
  refine List.map_fst_zip ?_
  rw [hwidth]
  exact Nat.le_add_right _ _

-- The first key column always stays, and with it the end of the others.
theorem exists_boundKeys {id : ColumnId} (hk : b.keyColumns = id :: c) (hwidth : row.length = b.width) :
    ∃ s, (b.boundKeys row).map (·.1) = id :: s ∧ s <:+ c := by
  have hids := map_fst_keys hwidth
  rw [boundKeys]
  generalize b.keyColumns.zip (row.drop b.setColumns.length) = keys at hids
  rw [hk] at hids
  cases keys
  case nil => cases hids
  case cons k keys =>
    obtain ⟨rfl, rfl⟩ := List.cons.inj hids
    exact ⟨_, rfl, (List.dropWhile_suffix _).map _⟩

-- Columns that do not occur twice are not merged.
theorem boundKeys_of_nodup (hk : b.keyColumns.Nodup) (hwidth : row.length = b.width) :
    b.boundKeys row = b.keyColumns.zip (row.drop b.setColumns.length) := by
  rw [← map_fst_keys hwidth] at hk
  rw [boundKeys]
  generalize b.keyColumns.zip (row.drop b.setColumns.length) = keys at hk
  match keys with
  | [] | [_] => rfl
  | k :: e :: keys =>
    have hne : k.1 ≠ e.1 := by
      rw [List.map_cons, List.map_cons, List.nodup_cons] at hk
      exact List.ne_of_not_mem_cons hk.1
    rw [merged, List.dropWhile_cons_of_neg]
    simp [hne]

-- Rows have one text if as many keys are compared.
theorem sql_eq_iff (hk : b.keyColumns ≠ []) (h : compileRow cx b row = .ok command)
    (h' : compileRow cx b row' = .ok command') :
    command.sql = command'.sql ↔ (b.boundKeys row).length = (b.boundKeys row').length := by
  obtain ⟨hwidth, _, values, stored, -, -, hvalues, hstored, -, hsql⟩ := of_compileRow hk h
  obtain ⟨hwidth', _, values', stored', -, -, hvalues', hstored', -, hsql'⟩ := of_compileRow hk h'
  obtain ⟨id, c, hc⟩ := List.exists_cons_of_ne_nil hk
  obtain ⟨s, hs, hsc⟩ := exists_boundKeys hc hwidth
  obtain ⟨s', hs', hsc'⟩ := exists_boundKeys hc hwidth'
  rw [hsql, hsql', ← length_revalued hstored, ← length_revalued hstored']
  refine text_updating_eq_iff (k := id) cx b.table ?_ hsc hsc' ?_ ?_
  case refine_1 =>
    rw [map_fst_revalued hvalues, map_fst_revalued hvalues', map_fst_sets hwidth, map_fst_sets hwidth']
  case refine_2 => rw [map_fst_revalued hstored, hs]
  case refine_3 => rw [map_fst_revalued hstored', hs']

theorem of_compile (h : b.compile cx = .ok batch) : b.keyColumns ≠ [] ∧ ∃ first rest command commands,
    b.rows = first :: rest ∧ compileRow cx b first = .ok command ∧
    List.Forall₂ (fun row command => compileRow cx b row = .ok command) b.rows (command :: commands) ∧
    batch = ⟨command.sql, (command :: commands).map (·.params)⟩ := by
  rw [compile] at h
  split at h
  case isTrue => cases h
  case isFalse hrows =>
    dsimp only at h
    split at h
    case isTrue => cases h
    case isFalse hkeys =>
      obtain ⟨commands, hcommands, ⟨⟩⟩ := Result.bind_eq_ok.mp h
      rw [Result.mapM_eq_ok] at hcommands
      refine ⟨by simpa using hkeys, ?_⟩
      generalize b.rows = rows at hrows hcommands
      cases hcommands
      case nil => simp at hrows
      case cons hfirst hrest => exact ⟨_, _, _, _, rfl, hfirst, .cons hfirst hrest, rfl⟩

theorem compile_each_row (h : b.compile cx = .ok batch) :
    ∃ first rest, b.rows = first :: rest ∧
      List.Forall₂ (fun row params => ∃ u sql values stored, b.rowUpdate row = .ok u ∧
        (Statement.update u).compile cx = .ok ⟨sql, params⟩ ∧ params = values ++ stored ∧
        storedRow cx b.setColumns row = .ok values ∧ storedEntries cx (b.boundKeys row) = .ok stored ∧
        (sql = batch.sql ↔ (b.boundKeys row).length = (b.boundKeys first).length) ∧
        (b.keyColumns.Nodup → sql = batch.sql ∧ b.boundKeys row = b.keyColumns.zip (row.drop b.setColumns.length)))
        b.rows batch.paramSets := by
  obtain ⟨hk, first, rest, command, commands, hrows, hfirst, hall, rfl⟩ := of_compile h
  refine ⟨first, rest, hrows, ?_⟩
  rw [List.forall₂_map_right_iff]
  refine hall.imp fun row c hrow => ?_
  obtain ⟨hwidth, u, values, stored, hu, hcompile, hvalues, hstored, hparams, -⟩ := of_compileRow hk hrow
  have hiff := sql_eq_iff hk hrow hfirst
  refine ⟨u, c.sql, values, stored, hu, hcompile, hparams, hvalues, hstored, hiff, fun hnodup => ?_⟩
  have hwidth' := (of_compileRow hk hfirst).1
  refine ⟨hiff.mpr ?_, boundKeys_of_nodup hnodup hwidth⟩
  rw [boundKeys_of_nodup hnodup hwidth, boundKeys_of_nodup hnodup hwidth', List.length_zip, List.length_zip,
    length_drop_of_width hwidth, length_drop_of_width hwidth']

theorem two_rows_share_text :
    let column (name : String) : ColumnDef := ⟨name, .int .bits32, false, false, false, none⟩
    let cx : Context := .new ⟨[⟨"seat", [column "row", column "place", column "price"], [0, 1], [], []⟩]⟩ .postgres none
    let b : BatchUpdate := ⟨0, [⟨0, 2⟩], [⟨0, 0⟩, ⟨0, 1⟩], [[.int 50, .int 1, .int 1], [.int 70, .int 2, .int 3]]⟩
    ∃ batch, b.compile cx = .ok batch ∧ batch.sql = "UPDATE seat SET price = $1 WHERE (seat.row = $2 AND seat.place = $3)" ∧
      List.Forall₂ (fun row params => ∃ u, b.rowUpdate row = .ok u ∧
        (Statement.update u).compile cx = .ok ⟨batch.sql, params⟩ ∧
        b.boundKeys row = b.keyColumns.zip (row.drop 1)) b.rows batch.paramSets := by
  intro column cx b
  have hsql : (b.compile cx).toOption.map (·.sql) =
      some "UPDATE seat SET price = $1 WHERE (seat.row = $2 AND seat.place = $3)" := by decide +kernel
  obtain ⟨batch, hbatch, hsql⟩ := Result.map_toOption_eq_some.mp hsql
  obtain ⟨first, rest, -, hall⟩ := compile_each_row hbatch
  refine ⟨batch, hbatch, hsql, hall.imp fun row params hrow => ?_⟩
  obtain ⟨u, sql, -, -, hu, hcompile, -, -, -, -, hnodup⟩ := hrow
  obtain ⟨rfl, hkeys⟩ := hnodup (by decide)
  exact ⟨u, hu, hcompile, hkeys⟩

-- The text of the first row has three placeholders, and the second row binds two values.
theorem merged_key_unbound :
    let people : TableDef := ⟨"people", [⟨"id", .int .bits32, false, true, false, none⟩,
      ⟨"name", .string (some 100), false, false, false, none⟩, ⟨"age", .int .bits16, true, false, false, none⟩], [0], [], []⟩
    let cx : Context := .new ⟨[people]⟩ .sqlite none
    let b : BatchUpdate := ⟨0, [⟨0, 1⟩], [⟨0, 0⟩, ⟨0, 0⟩], [[.text "a", .int 1, .int 2], [.text "b", .int 3, .int 3]]⟩
    (b.compile cx).toOption.map (fun batch => (batch.sql, batch.paramSets.map (·.length))) =
      some ("UPDATE people SET name = ? WHERE (people.id = ? AND people.id = ?)", [3, 2]) := by
  decide +kernel

end BatchUpdate

end PolySql
