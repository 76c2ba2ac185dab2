import PolySql.Proofs.Sql.Outcome
import PolySql.Proofs.Sql.Params
import PolySql.Statement.Batch

namespace PolySql

open Fragment

namespace Fragment

-- The placeholders of a row of values.
def placeholders (row : List Value) : Fragment :=
  joined ", " (row.map fun v => [.param v])

theorem params_placeholders (row : List Value) : (placeholders row).params = row := by
  rw [placeholders, params_joined, List.flatMap_map]
  exact List.flatMap_singleton' row

end Fragment

-- Rows whose cells are parameters.
def cells (rows : List (List Value)) : List (List Column) :=
  rows.map (·.map .param)

-- Values as their columns store them.
def storedEntries (cx : Context) (entries : List (ColumnId × Value)) : Result (List Value) :=
  entries.mapM fun e => cx.stored (cx.catalog.columnType? e.1) e.2

theorem storedEntries_cons (cx : Context) (e : ColumnId × Value) (entries : List (ColumnId × Value)) :
    storedEntries cx (e :: entries) = do
      let x ← cx.stored (cx.catalog.columnType? e.1) e.2
      return x :: (← storedEntries cx entries) :=
  List.mapM_cons

theorem length_of_storedEntries {entries : List (ColumnId × Value)} {values : List Value}
    (h : storedEntries cx entries = .ok values) : values.length = entries.length :=
  (Result.mapM_eq_ok.mp h).length_eq.symm

-- The values of a row as the columns store them.
def storedRow (cx : Context) (columns : List ColumnId) (row : List Value) : Result (List Value) :=
  storedEntries cx (columns.zip row)

theorem storedRow_cons (cx : Context) (id : ColumnId) (ids : List ColumnId) (v : Value) (row : List Value) :
    storedRow cx (id :: ids) (v :: row) = do
      let x ← cx.stored (cx.catalog.columnType? id) v
      return x :: (← storedRow cx ids row) := by
  rw [storedRow, List.zip_cons_cons, storedEntries_cons]
  rfl

theorem length_storedRow_le {columns : List ColumnId} {row stored : List Value}
    (h : storedRow cx columns row = .ok stored) : stored.length ≤ columns.length := by
  rw [length_of_storedEntries h, List.length_zip]
  exact Nat.min_le_left _ _

-- The insert of some rows of stored values.
def insertion (cx : Context) (table : TableId) (columns : List ColumnId) (rows : List (List Value)) : Fragment :=
  words "INSERT INTO " ++ name (cx.catalog.tableName table) ++
    if columns.isEmpty then words (cx.dialect.defaultValues.getD "")
    else words " " ++ Insert.columnList cx columns ++ words " VALUES " ++
      parenthesised (joined "), (" (rows.map placeholders))

namespace Insert

variable {cx : Context} {columns : List ColumnId} {row : List Value} {rows stored : List (List Value)} {f : Fragment}

theorem renderCells_params (cx : Context) (columns : List ColumnId) (row : List Value) :
    renderCells cx columns (row.map .param) = (storedRow cx columns row).map (·.map fun v => [.param v]) := by
  induction columns generalizing row
  case nil => rfl
  case cons id ids ih =>
    cases row
    case nil => rfl
    case cons v row =>
      have hcell : (Column.param v).render cx (cx.catalog.columnType? id) =
          (cx.stored (cx.catalog.columnType? id) v).map fun x => [.param x] := by
        rw [Column.render, Context.param]
        rfl
      rw [List.map_cons, renderCells, hcell, ih, storedRow_cons]
      cases cx.stored (cx.catalog.columnType? id) v
      case error e => rfl
      case ok x => cases storedRow cx ids row <;> rfl

theorem mapM_renderRow (cx : Context) (columns : List ColumnId) (rows : List (List Value)) :
    (cells rows).mapM (renderRow cx columns) =
      (rows.mapM (storedRow cx columns)).map (·.map placeholders) := by
  induction rows
  case nil => rfl
  case cons row rows ih =>
    have hrow : renderRow cx columns (row.map .param) = (storedRow cx columns row).map placeholders := by
      rw [renderRow, renderCells_params]
      cases storedRow cx columns row <;> rfl
    rw [cells, List.map_cons, List.mapM_cons, List.mapM_cons, hrow, ← cells, ih]
    cases storedRow cx columns row
    case error e => rfl
    case ok x => cases rows.mapM (storedRow cx columns) <;> rfl

-- Several rows need columns and a dialect that takes them.
theorem render_rows (i : Insert) (hr : i.returning = []) (hc : i.onConflict = none) (hcolumns : i.columns ≠ [])
    (hmulti : rows.length ≤ 1 ∨ cx.supports .multiRowInsert = true) :
    { i with rows := cells rows }.render cx =
      (rows.mapM (storedRow cx i.columns)).map (insertion cx i.table i.columns) := by
  have hempty : i.columns.isEmpty = false := by simpa using hcolumns
  have hvalues : renderValues cx i.columns (cells rows) = do
      let stored ← rows.mapM (storedRow cx i.columns)
      return words " " ++ columnList cx i.columns ++ words " VALUES " ++
        parenthesised (joined "), (" (stored.map placeholders)) := by
    rw [renderValues, hempty, mapM_renderRow, cells, List.length_map]
    have hrequire : cx.supports .multiRowInsert = true → cx.require .multiRowInsert "multi-row INSERT" = .ok () := by
      intro h
      rw [Context.require, if_pos h]
    rw [if_neg (by decide)]
    split
    case isTrue h =>
      rw [hrequire (hmulti.resolve_left (by omega))]
      cases rows.mapM (storedRow cx i.columns) <;> rfl
    case isFalse => cases rows.mapM (storedRow cx i.columns) <;> rfl
  rw [render, hvalues, hr, hc]
  cases rows.mapM (storedRow cx i.columns)
  case error e => rfl
  case ok stored => simp [renderConflict, renderReturning, insertion, hempty, Except.map, bind, Except.bind, pure, Except.pure]

theorem render_eq_ok (i : Insert) (hr : i.returning = []) (hc : i.onConflict = none)
    (hmulti : rows.length ≤ 1 ∨ cx.supports .multiRowInsert = true) (h : { i with rows := cells rows }.render cx = .ok f) :
    ∃ stored, rows.mapM (storedRow cx i.columns) = .ok stored ∧ f = insertion cx i.table i.columns stored := by
  by_cases hcolumns : i.columns = []
  case neg =>
    rw [render_rows i hr hc hcolumns hmulti] at h
    cases hstored : rows.mapM (storedRow cx i.columns)
    case error e =>
      rw [hstored] at h
      cases h
    case ok stored =>
      rw [hstored] at h
      cases h
      exact ⟨stored, rfl, rfl⟩
  case pos =>
    -- no value is bound
    have hstored : rows.mapM (storedRow cx i.columns) = .ok (rows.map fun _ => []) := by
      rw [Result.mapM_eq_ok, List.forall₂_map_right_iff, List.forall₂_same, hcolumns]
      exact fun row _ => rfl
    refine ⟨_, hstored, ?_⟩
    obtain ⟨values, hvalues, h⟩ := Result.bind_eq_ok.mp h
    have hvalues : values = words (cx.dialect.defaultValues.getD "") := by
      simp only [renderValues, hcolumns, List.isEmpty_nil, if_true] at hvalues
      split at hvalues
      case isTrue => cases hvalues
      case isFalse =>
        cases hd : cx.dialect.defaultValues <;> rw [hd] at hvalues <;> cases hvalues
        rfl
    simp [hc, hr, renderConflict, renderReturning, bind, Except.bind, pure, Except.pure] at h
    simp [← h, hvalues, insertion, hcolumns]

end Insert

theorem length_flatten_le {rows : List (List Value)} {n : Nat} (h : ∀ row ∈ rows, row.length ≤ n) :
    rows.flatten.length ≤ rows.length * n := by
  induction rows
  case nil => simp
  case cons row rows ih =>
    rw [List.forall_mem_cons] at h
    rw [List.flatten_cons, List.length_append, List.length_cons, Nat.succ_mul, Nat.add_comm]
    exact Nat.add_le_add (ih h.2) h.1

theorem params_insertion (cx : Context) (table : TableId) {columns : List ColumnId} {rows : List (List Value)}
    (h : ∀ row ∈ rows, row.length ≤ columns.length) : (insertion cx table columns rows).params = rows.flatten := by
  have hrows : (rows.map placeholders).flatMap params = rows.flatten := by
    simp [List.flatMap_map, params_placeholders]
  rw [insertion]
  split
  case isFalse => simp [Insert.columnList, hrows, List.flatMap_map]
  case isTrue hcolumns =>
    have hlength := length_flatten_le h
    rw [List.isEmpty_iff.mp hcolumns, List.length_nil, Nat.mul_zero, Nat.le_zero, List.length_eq_zero_iff] at hlength
    simp [hlength]

end PolySql
