import PolySql.Proofs.Sql.Outcome
import PolySql.Proofs.Statement.Completion
import PolySql.Statement.Basic

namespace PolySql

open Fragment

-- Fragments as the cells of columns, each made from its value in view of the column's type.
abbrev Cells.Render (cx : Context) (entries : List (ColumnId × Column)) (fs : List Fragment) : Prop :=
  List.Forall₂ (fun x f => x.2.render cx (cx.catalog.columnType? x.1) = .ok f) entries fs

namespace Insert

variable {cx : Context} {i : Insert} {columns : List ColumnId} {row : List Column} {f : Fragment}

-- An insert of rows of cells, with what follows the rows.
def inserting (cx : Context) (table : TableId) (columns : List ColumnId) (cells : List (List Fragment))
    (tail : Fragment) : Fragment :=
  words "INSERT INTO " ++ name (cx.catalog.tableName table) ++ (words " " ++ columnList cx columns ++
    words " VALUES " ++ parenthesised (joined "), (" (cells.map (joined ", ")))) ++ tail

theorem renderCells_eq_ok {cells : List Fragment} (h : renderCells cx columns row = .ok cells) :
    Cells.Render cx (columns.zip row) cells := by
  induction columns generalizing row cells
  case nil =>
    cases h
    exact .nil
  case cons id ids ih =>
    cases row
    case nil =>
      cases h
      exact .nil
    case cons value row =>
      rw [renderCells, Result.bind_eq_ok] at h
      obtain ⟨head, hhead, h⟩ := h
      obtain ⟨tail, htail, ⟨⟩⟩ := Result.bind_eq_ok.mp h
      exact .cons hhead (ih htail)

theorem renderRows_eq_ok {rows : List (List Column)} {fs : List Fragment}
    (h : rows.mapM (renderRow cx columns) = .ok fs) :
    ∃ cells, List.Forall₂ (fun row fs => Cells.Render cx (columns.zip row) fs) rows cells ∧
      fs = cells.map (joined ", ") := by
  obtain ⟨cells, hcells, -, rfl⟩ := Result.exists_map_of_mapM (p := fun _ => True) h fun row _ g hg => by
    rw [renderRow, Result.bind_eq_ok] at hg
    obtain ⟨fs, hfs, ⟨⟩⟩ := hg
    exact ⟨fs, renderCells_eq_ok hfs, trivial, rfl⟩
  exact ⟨cells, hcells, rfl⟩

theorem renderValues_eq_ok {rows : List (List Column)} (h : renderValues cx columns rows = .ok f)
    (hcolumns : columns ≠ []) : ∃ fs, rows.mapM (renderRow cx columns) = .ok fs ∧
      f = words " " ++ columnList cx columns ++ words " VALUES " ++ parenthesised (joined "), (" fs) := by
  rw [renderValues, if_neg (by simpa using hcolumns)] at h
  dsimp only at h
  split at h
  case isFalse =>
    obtain ⟨fs, hfs, ⟨⟩⟩ := Result.bind_eq_ok.mp h
    exact ⟨fs, hfs, rfl⟩
  case isTrue =>
    obtain ⟨_, -, h⟩ := Result.bind_eq_ok.mp h
    obtain ⟨fs, hfs, ⟨⟩⟩ := Result.bind_eq_ok.mp h
    exact ⟨fs, hfs, rfl⟩

-- What is inserted stands in the rows of the text, unless the insert has no columns.
theorem cells_of_render (h : i.render cx = .ok f) (hcolumns : i.columns ≠ []) :
    ∃ cells tail, List.Forall₂ (fun row fs => Cells.Render cx (i.columns.zip row) fs) i.rows cells ∧
      f = inserting cx i.table i.columns cells tail := by
  rw [render, Result.bind_eq_ok] at h
  obtain ⟨values, hvalues, h⟩ := h
  obtain ⟨conflict, -, h⟩ := Result.bind_eq_ok.mp h
  obtain ⟨returned, -, ⟨⟩⟩ := Result.bind_eq_ok.mp h
  obtain ⟨fs, hfs, rfl⟩ := renderValues_eq_ok hvalues hcolumns
  obtain ⟨cells, hcells, rfl⟩ := renderRows_eq_ok hfs
  exact ⟨cells, conflict ++ returned, hcells, by rw [inserting, List.append_assoc _ conflict]⟩

end Insert

namespace Update

variable {cx : Context} {u : Update} {f : Fragment} {values : List (ColumnId × Column)}

-- A column that is set to what a cell has in it.
def setting (cx : Context) (id : ColumnId) (cell : Fragment) : Fragment :=
  name (cx.catalog.columnName id) ++ words " = " ++ cell

def updating (cx : Context) (head : Fragment) (table : TableId) (ids : List ColumnId) (cells : List Fragment)
    (tail : Fragment) : Fragment :=
  words "UPDATE " ++ head ++ name (cx.catalog.tableName table) ++ words " SET " ++
    joined ", " (List.zipWith (setting cx) ids cells) ++ tail

theorem renderValues_eq_ok {fs : List Fragment} (h : renderValues cx values = .ok fs) :
    ∃ cells, Cells.Render cx values cells ∧ fs = List.zipWith (setting cx) (values.map (·.1)) cells := by
  induction values generalizing fs
  case nil =>
    cases h
    exact ⟨[], .nil, rfl⟩
  case cons x r ih =>
    obtain ⟨id, value⟩ := x
    rw [renderValues, Result.bind_eq_ok] at h
    obtain ⟨head, hhead, h⟩ := h
    obtain ⟨tail, htail, ⟨⟩⟩ := Result.bind_eq_ok.mp h
    obtain ⟨cells, hcells, rfl⟩ := ih htail
    exact ⟨head :: cells, .cons hhead hcells, rfl⟩

theorem checkValues_eq_ok {c : Catalog} {table : TableId} {seen : List ColumnId}
    (h : checkValues c table seen values = .ok ()) :
    ∀ x ∈ values, x.2.isNullConstant = true → c.isNullable x.1 = true := by
  induction values generalizing seen
  case nil => nofun
  case cons x r ih =>
    obtain ⟨id, value⟩ := x
    rw [checkValues] at h
    split at h
    case isTrue => nomatch h
    case isFalse =>
      split at h
      case isTrue => nomatch h
      case isFalse =>
        split at h
        case isTrue => nomatch h
        case isFalse hnull =>
          refine List.forall_mem_cons.mpr ⟨fun hvalue => ?_, ih h⟩
          simpa [hvalue] using hnull

-- What is assigned stands after its column in the text.
theorem render_eq_ok (h : u.render cx = .ok f) :
    (∀ x ∈ u.values, x.2.isNullConstant = true → cx.catalog.isNullable x.1 = true) ∧
      ∃ head cells tail, Cells.Render cx u.values cells ∧
        f = updating cx head u.table (u.values.map (·.1)) cells tail := by
  rw [render] at h
  split at h
  case isTrue => nomatch h
  case isFalse =>
    obtain ⟨_, hcheck, h⟩ := Result.bind_eq_ok.mp h
    obtain ⟨top, -, h⟩ := Result.bind_eq_ok.mp h
    obtain ⟨fs, hfs, h⟩ := Result.bind_eq_ok.mp h
    obtain ⟨filter, -, h⟩ := Result.bind_eq_ok.mp h
    obtain ⟨limit, -, h⟩ := Result.bind_eq_ok.mp h
    obtain ⟨returned, -, ⟨⟩⟩ := Result.bind_eq_ok.mp h
    obtain ⟨cells, hcells, rfl⟩ := renderValues_eq_ok hfs
    refine ⟨checkValues_eq_ok hcheck, top, cells, filter ++ limit ++ returned, hcells, ?_⟩
    simp only [updating, List.append_assoc]

end Update

-- The inserts that an application can build. They get their values from the constructors.
inductive Insert.Built (c : Catalog) : Insert → Prop
  | new (table : TableId) (values : List (ColumnId × Column)) :
    (Insert.new c table values draws).1 = .ok i → Built c i
  | multi (table : TableId) (columns : List ColumnId) (rows : List (List Column)) :
    (Insert.multi c table columns rows draws).1 = .ok i → Built c i
  | returning (columns : List Column) : Built c i → Built c { i with returning := columns }
  | onConflict (conflict : Option OnConflict) : Built c i → Built c { i with onConflict := conflict }

theorem Insert.checked_of_multi {c : Catalog} {table : TableId} {columns : List ColumnId} {rows : List (List Column)}
    (h : (Insert.multi c table columns rows draws).1 = .ok i) :
    ∀ row ∈ i.rows, row.length = i.columns.length ∧
      ∀ x ∈ i.columns.zip row, x.2.isNullConstant = true → c.isNullable x.1 = true := by
  have hn := not_faulty_of_multi h
  rw [multi_of_not_faulty hn] at h
  cases h
  refine fun row hrow => ⟨length_of_not_faulty hn row hrow, fun x hx hnull => ?_⟩
  by_contra hnullable
  obtain ⟨column, hcolumn, hnullable⟩ := Catalog.isNullable_eq_false.mp (Bool.not_eq_true _ ▸ hnullable)
  exact hn (.null hrow hx (Column.isNullConstant_iff.mp hnull) hcolumn hnullable)

theorem Insert.Built.checked {c : Catalog} {i : Insert} (h : i.Built c) :
    ∀ row ∈ i.rows, row.length = i.columns.length ∧
      ∀ x ∈ i.columns.zip row, x.2.isNullConstant = true → c.isNullable x.1 = true := by
  induction h
  case new h | multi h => exact checked_of_multi h
  case returning ih => exact ih
  case onConflict ih => exact ih

end PolySql
