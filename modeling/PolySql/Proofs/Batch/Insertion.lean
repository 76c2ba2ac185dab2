import PolySql.Dialect.Builtin
import PolySql.Proofs.Batch.Rows
import PolySql.Proofs.Statement.Completion

namespace PolySql

open Fragment

namespace BatchInsert

variable {α : Type} {size fuel : Nat} {xs ys : List α}

theorem flatten_chunksWith (hsize : 0 < size) (hfuel : xs.length ≤ fuel) : (chunksWith size fuel xs).flatten = xs := by
  induction fuel generalizing xs
  case zero => simp_all [chunksWith]
  case succ fuel ih =>
    cases xs
    case nil => rfl
    case cons x xs =>
      have hrest : ((x :: xs).drop size).length ≤ fuel := by
        rw [List.length_drop]
        omega
      rw [chunksWith, List.flatten_cons, ih hrest, List.take_append_drop]
      nofun

theorem length_of_mem_chunksWith (hsize : 0 < size) (hys : ys ∈ chunksWith size fuel xs) :
    1 ≤ ys.length ∧ ys.length ≤ size := by
  induction fuel generalizing xs
  case zero => cases hys
  case succ fuel ih =>
    cases xs
    case nil => cases hys
    case cons x xs =>
      rw [chunksWith] at hys
      case x_2 => nofun
      rcases List.mem_cons.mp hys with rfl | hys
      case inl =>
        rw [List.length_take, List.length_cons]
        omega
      case inr => exact ih hys

theorem flatten_chunks (hsize : 0 < size) (xs : List α) : (chunks size xs).flatten = xs :=
  flatten_chunksWith hsize (Nat.le_refl _)

theorem findSome?_chunks {β : Type} (hsize : 0 < size) (f : α → Option β) (xs : List α) :
    (chunks size xs).findSome? (fun c => c.findSome? f) = xs.findSome? f := by
  have hflatten (cs : List (List α)) : cs.flatten.findSome? f = cs.findSome? fun c => c.findSome? f := by
    induction cs
    case nil => rfl
    case cons c cs ih =>
      rw [List.flatten_cons, List.findSome?_append, List.findSome?_cons, ih]
      cases c.findSome? f <;> rfl
  rw [← hflatten, flatten_chunks hsize]

theorem chunks_map {β : Type} (size : Nat) (f : α → β) (xs : List α) :
    chunks size (xs.map f) = (chunks size xs).map (·.map f) := by
  have hfuel (fuel : Nat) : ∀ xs : List α, chunksWith size fuel (xs.map f) = (chunksWith size fuel xs).map (·.map f) := by
    induction fuel
    case zero => exact fun _ => rfl
    case succ fuel ih =>
      intro xs
      cases xs
      case nil => rfl
      case cons x xs => simp [chunksWith, ← ih]
  rw [chunks, List.length_map, hfuel, chunks]

variable {cx : Context} {b : BatchInsert} {row : List Value} {rows all : List (List Value)} {command : Command}

-- The insert of a part of the rows.
def part (b : BatchInsert) (rows : List (List Value)) : Statement :=
  .insert { b.insert with rows := cells rows }

theorem chunkSize_pos (cx : Context) (columns : Nat) : 0 < chunkSize cx columns := by
  rw [chunkSize]
  split
  case isTrue => exact Nat.one_pos
  case isFalse => exact Nat.lt_of_lt_of_le Nat.one_pos (Nat.le_max_left _ _)

-- A statement has one row, or as many as the limits allow.
theorem of_le_chunkSize {n columns : Nat} (h : n ≤ chunkSize cx columns) : n ≤ 1 ∨
    columns ≠ 0 ∧ cx.supports .multiRowInsert = true ∧ n * columns ≤ cx.dialect.maxParameters ∧
      ∀ most ∈ cx.dialect.maxRowsPerInsert, n ≤ most := by
  rw [chunkSize] at h
  split at h
  case isTrue => exact .inl h
  case isFalse hmany =>
    simp only [not_or, Bool.not_eq_true'] at hmany
    obtain ⟨hcolumns, hmulti⟩ := hmany
    by_cases hone : n ≤ 1
    case pos => exact .inl hone
    case neg =>
      have hfitting : n ≤ cx.dialect.maxParameters / columns ∧ ∀ most ∈ cx.dialect.maxRowsPerInsert, n ≤ most := by
        cases hm : cx.dialect.maxRowsPerInsert
        case none =>
          rw [hm] at h
          dsimp only at h
          exact ⟨by omega, nofun⟩
        case some most =>
          rw [hm] at h
          dsimp only at h
          refine ⟨by omega, ?_⟩
          rintro _ ⟨⟩
          omega
      refine .inr ⟨hcolumns, by simpa using hmulti, ?_, hfitting.2⟩
      exact Nat.mul_le_of_le_div _ _ _ hfitting.1

-- The batch has the given rows, each with a value for every column.
structure Holds (b : BatchInsert) (rows : List (List Value)) : Prop where
  rows_eq : b.insert.rows = cells rows
  widths : ∀ row ∈ rows, row.length = b.insert.columns.length
  returning_eq : b.insert.returning = []
  onConflict_eq : b.insert.onConflict = none

-- Rows of stored values, divided among statements that the dialect takes.
structure Splits (cx : Context) (rows : List (List Value)) (parts : List (List (List Value))) : Prop where
  flatten_eq : parts.flatten = rows
  one_le : ∀ part ∈ parts, 1 ≤ part.length
  rows_le : ∀ part ∈ parts, ∀ most ∈ cx.dialect.maxRowsPerInsert, part.length ≤ max 1 most
  values_le : ∀ part ∈ parts, part.flatten.length ≤ cx.dialect.maxParameters
  single : cx.supports .multiRowInsert = false → ∀ part ∈ parts, part.length = 1

theorem Splits.of_le_chunkSize {parts : List (List (List Value))} (h : ∀ part ∈ parts,
    part.flatten.length ≤ cx.dialect.maxParameters ∧ 1 ≤ part.length ∧ part.length ≤ chunkSize cx columns) :
    Splits cx parts.flatten parts where
  flatten_eq := rfl
  one_le part hpart := (h part hpart).2.1
  rows_le part hpart most hmost := by
    rcases BatchInsert.of_le_chunkSize (h part hpart).2.2 with hone | ⟨-, -, -, hle⟩
    case inl => exact Nat.le_trans hone (Nat.le_max_left _ _)
    case inr => exact Nat.le_trans (hle most hmost) (Nat.le_max_right _ _)
  values_le part hpart := (h part hpart).1
  single hsupports part hpart := by
    rcases BatchInsert.of_le_chunkSize (h part hpart).2.2 with hone | ⟨-, hmulti, -⟩
    case inl => exact Nat.le_antisymm hone (h part hpart).2.1
    case inr => cases hsupports.symm.trans hmulti

namespace Holds

theorem compile_eq (hb : b.Holds rows) (cx : Context) :
    b.compile cx = (chunks (chunkSize cx b.insert.columns.length) rows).mapM fun part => (b.part part).compile cx := by
  rw [compile, hb.rows_eq, cells, chunks_map, List.mapM_map]
  rfl

-- A statement that is within the limits fails as the first row with a value that its column cannot store.
theorem failure?_of_fits (hb : b.Holds all) (hcolumns : b.insert.columns ≠ [])
    (hmulti : rows.length ≤ 1 ∨ cx.supports .multiRowInsert = true)
    (hfits : rows.length * b.insert.columns.length ≤ cx.dialect.maxParameters) :
    Result.failure? ((b.part rows).compile cx) =
      rows.findSome? fun row => Result.failure? (storedRow cx b.insert.columns row) := by
  rw [part, Statement.compile, Insert.render_rows _ hb.returning_eq hb.onConflict_eq hcolumns hmulti,
    ← Result.failure?_mapM fun _ _ => rfl]
  cases hstored : rows.mapM (storedRow cx b.insert.columns)
  case error e => rfl
  case ok stored =>
    have hwidths := Result.forall_of_mapM hstored fun _ _ _ h => length_storedRow_le h
    have hcount : ¬cx.dialect.maxParameters < (insertion cx b.insert.table b.insert.columns stored).params.length := by
      have hle := length_flatten_le hwidths
      rw [← (Result.mapM_eq_ok.mp hstored).length_eq] at hle
      rw [params_insertion cx _ hwidths]
      omega
    have hcommand : cx.command (insertion cx b.insert.table b.insert.columns stored) = .ok _ := if_neg hcount
    exact congrArg Result.failure? hcommand

-- The insert of a part fails as the first of its rows that fails by itself.
theorem failure?_part (hb : b.Holds all) (hne : rows ≠ []) (hle : rows.length ≤ chunkSize cx b.insert.columns.length) :
    Result.failure? ((b.part rows).compile cx) =
      rows.findSome? fun row => Result.failure? ((b.part [row]).compile cx) := by
  rcases of_le_chunkSize hle with hone | ⟨hcolumns, hmulti, hfits, -⟩
  case inl =>
    obtain ⟨row, rfl⟩ : ∃ row, rows = [row] := by
      rw [← List.length_eq_one_iff]
      have := List.length_pos_iff.mpr hne
      omega
    simp
  case inr =>
    have hcolumns : b.insert.columns ≠ [] := by simpa using hcolumns
    have hrow (row : List Value) : Result.failure? ((b.part [row]).compile cx) =
        Result.failure? (storedRow cx b.insert.columns row) := by
      have hfits : [row].length * b.insert.columns.length ≤ cx.dialect.maxParameters :=
        Nat.le_trans (Nat.mul_le_mul_right _ (List.length_pos_iff.mpr hne)) hfits
      have hsingle : [row].length ≤ 1 := Nat.le_refl 1
      rw [hb.failure?_of_fits hcolumns (.inl hsingle) hfits]
      simp
    simp only [hrow]
    exact hb.failure?_of_fits hcolumns (.inr hmulti) hfits

theorem failure?_compile (hb : b.Holds rows) (cx : Context) :
    Result.failure? (b.compile cx) = rows.findSome? fun row => Result.failure? ((b.part [row]).compile cx) := by
  have hpos := chunkSize_pos cx b.insert.columns.length
  rw [hb.compile_eq, ← findSome?_chunks hpos]
  refine Result.failure?_mapM fun part hpart => ?_
  obtain ⟨hone, hle⟩ := length_of_mem_chunksWith hpos hpart
  exact hb.failure?_part (List.ne_nil_of_length_pos hone) hle

-- What has been compiled for a part of the rows.
theorem of_compile_part (hb : b.Holds all) (hle : rows.length ≤ chunkSize cx b.insert.columns.length)
    (h : (b.part rows).compile cx = .ok command) :
    ∃ stored, rows.mapM (storedRow cx b.insert.columns) = .ok stored ∧
      stored.flatten.length ≤ cx.dialect.maxParameters ∧
      command = ⟨(insertion cx b.insert.table b.insert.columns stored).text cx.dialect 0, stored.flatten⟩ := by
  have hmulti : rows.length ≤ 1 ∨ cx.supports .multiRowInsert = true := (of_le_chunkSize hle).imp_right (·.2.1)
  obtain ⟨f, hf, hcommand⟩ := Result.bind_eq_ok.mp h
  obtain ⟨stored, hstored, rfl⟩ := Insert.render_eq_ok _ hb.returning_eq hb.onConflict_eq hmulti hf
  obtain ⟨rfl, hcount⟩ := Context.of_command hcommand
  have hwidths := Result.forall_of_mapM hstored fun _ _ _ h => length_storedRow_le h
  rw [params_insertion cx _ hwidths] at hcount ⊢
  exact ⟨stored, hstored, hcount, rfl⟩

theorem exists_splits (hb : b.Holds rows) (h : b.compile cx = .ok commands) :
    ∃ stored parts, rows.mapM (storedRow cx b.insert.columns) = .ok stored ∧ Splits cx stored parts ∧
      commands = parts.map fun part =>
        ⟨(insertion cx b.insert.table b.insert.columns part).text cx.dialect 0, part.flatten⟩ := by
  have hpos := chunkSize_pos cx b.insert.columns.length
  rw [hb.compile_eq] at h
  obtain ⟨parts, hparts, hlimits, hcommands⟩ := Result.exists_map_of_mapM (s := fun part stored =>
    List.Forall₂ (fun row values => storedRow cx b.insert.columns row = .ok values) part stored)
    (p := fun stored => stored.flatten.length ≤ cx.dialect.maxParameters ∧
      1 ≤ stored.length ∧ stored.length ≤ chunkSize cx b.insert.columns.length) h fun part hpart command hcommand => by
    obtain ⟨hone, hle⟩ := length_of_mem_chunksWith hpos hpart
    obtain ⟨stored, hstored, hcount, hcommand⟩ := hb.of_compile_part hle hcommand
    rw [Result.mapM_eq_ok] at hstored
    rw [hstored.length_eq] at hone hle
    exact ⟨stored, hstored, ⟨hcount, hone, hle⟩, hcommand⟩
  have hrows := List.rel_flatten hparts
  rw [flatten_chunks hpos] at hrows
  exact ⟨parts.flatten, parts, Result.mapM_eq_ok.mpr hrows, .of_le_chunkSize hlimits, hcommands⟩

end Holds

-- The batch has what it was built from, followed by the values of generators.
structure Built (b : BatchInsert) (table : TableId) (columns : List ColumnId) (given rows : List (List Value)) : Prop
    extends Holds b rows where
  table_eq : b.insert.table = table
  columns_prefix : columns <+: b.insert.columns
  rows_prefix : List.Forall₂ (· <+: ·) given rows

theorem exists_built (h : (BatchInsert.new c table columns given draws).1 = .ok b) :
    ∃ rows, b.Built table columns given rows := by
  have h : ((Insert.multi c table columns (cells given) draws).1).map BatchInsert.mk = .ok b := h
  cases hi : (Insert.multi c table columns (cells given) draws).1
  case error e =>
    rw [hi] at h
    cases h
  case ok i =>
    rw [hi] at h
    cases h
    have hn := Insert.not_faulty_of_multi hi
    rw [Insert.multi_of_not_faulty hn] at hi
    generalize Insert.generated c columns (c.columnIds table) = xs at hn hi
    cases hi
    let completed (k : Nat) (row : List Value) := row ++ xs.map fun x => x.draw (draws.count x.id + k)
    refine ⟨given.mapIdx completed, ⟨?_, ?_, rfl, rfl⟩, rfl, List.prefix_append _ _, ?_⟩
    case refine_1 =>
      have hcell (k : Nat) (row : List Value) :
          Insert.completedRow draws xs (row.map .param) k = (completed k row).map .param := by
        simp [completed, Insert.completedRow, Function.comp_def]
      exact List.ext_getElem (by simp [cells]) fun k _ _ => by simp [cells, hcell]
    case refine_2 =>
      intro row hrow
      obtain ⟨k, hk, rfl⟩ := List.mem_mapIdx.mp hrow
      have hwidth : given[k].length = columns.length := by
        simpa using Insert.width_of_not_faulty hn (given[k].map .param) (List.mem_map_of_mem (List.getElem_mem hk))
      simp [completed, hwidth]
    case refine_3 =>
      rw [List.forall₂_iff_get]
      refine ⟨(List.length_mapIdx ..).symm, fun k hk hk' => ?_⟩
      simp [completed]

theorem compile_row_by_row (h : (BatchInsert.new cx.catalog table columns given draws).1 = .ok b) :
    ∃ rows, b.Built table columns given rows ∧
      ((∃ commands, b.compile cx = .ok commands) ↔ ∀ row ∈ rows, ∃ command, (b.part [row]).compile cx = .ok command) ∧
      (∀ e, b.compile cx = .error e ↔ ∃ before row after, rows = before ++ row :: after ∧
        (b.part [row]).compile cx = .error e ∧ ∀ r ∈ before, ∃ command, (b.part [r]).compile cx = .ok command) ∧
      (∀ commands, b.compile cx = .ok commands →
        ∃ stored parts, rows.mapM (storedRow cx b.insert.columns) = .ok stored ∧ Splits cx stored parts ∧
          commands = parts.map fun part =>
            ⟨(insertion cx table b.insert.columns part).text cx.dialect 0, part.flatten⟩) ∧
      (given = [] → b.compile cx = .ok []) := by
  obtain ⟨rows, hb⟩ := exists_built h
  refine ⟨rows, hb, ?_, ?_, ?_, ?_⟩
  case refine_1 =>
    simp only [← Result.failure?_eq_none, hb.failure?_compile, List.findSome?_eq_none_iff]
  case refine_2 =>
    simp only [← Result.failure?_eq_some, ← Result.failure?_eq_none, hb.failure?_compile, List.findSome?_eq_some_iff,
      implies_true]
  case refine_3 => exact fun commands hc => hb.table_eq ▸ hb.exists_splits hc
  case refine_4 =>
    rintro rfl
    rw [hb.compile_eq, List.forall₂_nil_left_iff.mp hb.rows_prefix]
    rfl

theorem three_rows_in_two_statements :
    let table : TableDef := ⟨"t", [⟨"n", .int .bits16, false, false, false, none⟩], [0], [], []⟩
    let cx : Context := .new ⟨[table]⟩ { Dialect.postgres with maxParameters := 2 } none
    let b : BatchInsert := ⟨0, [⟨0, 0⟩], cells [[.int 1], [.int 2], [.int 3]], [], none⟩
    ∃ commands, b.compile cx = .ok commands ∧
      commands.map (·.sql) = ["INSERT INTO t (n) VALUES ($1), ($2)", "INSERT INTO t (n) VALUES ($1)"] ∧
      ∃ rows stored parts, b.Built 0 [⟨0, 0⟩] [[.int 1], [.int 2], [.int 3]] rows ∧
        rows.mapM (storedRow cx [⟨0, 0⟩]) = .ok stored ∧ Splits cx stored parts ∧
        commands = parts.map fun part =>
          ⟨(insertion cx 0 [⟨0, 0⟩] part).text cx.dialect 0, part.flatten⟩ := by
  intro table cx b
  have hnew : (BatchInsert.new cx.catalog 0 [⟨0, 0⟩] [[.int 1], [.int 2], [.int 3]] .none).1 = .ok b := rfl
  have hsql : (b.compile cx).toOption.map (·.map (·.sql)) =
      some ["INSERT INTO t (n) VALUES ($1), ($2)", "INSERT INTO t (n) VALUES ($1)"] := by decide +kernel
  obtain ⟨commands, hc, hsql⟩ := Result.map_toOption_eq_some.mp hsql
  obtain ⟨rows, hb, -, -, hsplits, -⟩ := compile_row_by_row hnew
  obtain ⟨stored, parts, hsplit⟩ := hsplits commands hc
  exact ⟨commands, hc, hsql, rows, stored, parts, hb, hsplit⟩

end BatchInsert

end PolySql
