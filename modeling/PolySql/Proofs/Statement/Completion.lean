import PolySql.Proofs.Catalog.WellFormed
import PolySql.Statement.Insert

namespace PolySql

section

variable {α : Type} {id : ColumnId} {a : α} {entries : List (ColumnId × α)}

theorem lookup_cons (key other : ColumnId) (b : α) (entries : List (ColumnId × α)) :
    ((key, b) :: entries).lookup other = if other = key then some b else entries.lookup other := by
  by_cases h : other = key
  case pos => simp [h]
  case neg =>
    have hskip : (other == key) = false := beq_eq_false_iff_ne.mpr h
    rw [List.lookup_cons, hskip, if_neg h]

theorem mem_iff_lookup (h : (entries.map (·.1)).Nodup) : (id, a) ∈ entries ↔ entries.lookup id = some a := by
  induction entries
  case nil => simp
  case cons x r ih =>
    obtain ⟨key, b⟩ := x
    rw [List.map_cons, List.nodup_cons] at h
    rw [List.mem_cons, Prod.mk.injEq, lookup_cons]
    by_cases hkey : id = key
    case neg => rw [if_neg hkey, ← ih h.2, or_iff_right fun heq => hkey heq.1]
    case pos =>
      have hnot : (id, a) ∉ r := fun hmem => h.1 (List.mem_map.mpr ⟨(id, a), hmem, hkey⟩)
      rw [if_pos hkey, or_iff_left hnot, Option.some_inj, eq_comm (a := b), and_iff_right hkey]

end

namespace Draws

theorem lookup_filter_ne {id other : ColumnId} (hne : other ≠ id) (counts : List (ColumnId × Nat)) :
    (counts.filter (·.1 != id)).lookup other = counts.lookup other := by
  induction counts
  case nil => rfl
  case cons x r ih =>
    obtain ⟨key, n⟩ := x
    by_cases hkey : key = id
    case pos => simp [hkey, ih, lookup_cons, hne]
    case neg => simp [hkey, lookup_cons, ih]

theorem count_advance (s : Draws) (id other : ColumnId) (n : Nat) :
    (s.advance id n).count other = s.count other + if other = id then n else 0 := by
  by_cases h : other = id
  case pos => simp [advance, count, h]
  case neg => simp [advance, count, h, lookup_cons, lookup_filter_ne h]

end Draws

namespace Catalog

-- What computes the values of a column that an insert omits.
def generator? (c : Catalog) (id : ColumnId) : Option (Nat → Value) :=
  match (c.column? id).bind (·.default) with
  | some (.client draw) => some draw
  | _ => none

-- A column that gets no value unless an insert has one for it.
structure Requires (c : Catalog) (id : ColumnId) (column : ColumnDef) : Prop where
  column_eq : c.column? id = some column
  nullable : column.nullable = false
  default : column.default = none
  autoIncrement : column.autoIncrement = false

theorem isNullable_eq_false {c : Catalog} {id : ColumnId} :
    c.isNullable id = false ↔ ∃ column, c.column? id = some column ∧ column.nullable = false := by
  cases h : c.column? id <;> simp [isNullable, h]

end Catalog

theorem Column.isNullConstant_iff {value : Column} :
    value.isNullConstant = true ↔ value = .null ∨ value = .param .null := by
  cases value
  case param v => cases v <;> simp [isNullConstant]
  all_goals simp [isNullConstant]

namespace Insert

-- The omitted columns that have a generator, in the order of their declaration.
def generated (c : Catalog) (given ids : List ColumnId) : List Completion :=
  (ids.filter (· ∉ given)).filterMap fun id => (c.generator? id).map (⟨id, ·⟩)

-- What is wrong with the columns that are given for an insert, with the values for them, or with the rows that
-- generators have completed.
inductive Faulty (c : Catalog) (table : TableId) (given : List ColumnId) (rows : List (List Column))
    (columns : List ColumnId) (completed : List (List Column)) : Prop
  | foreign {id : ColumnId} (hid : id ∈ given) (ht : id.table ≠ table)
  | repeated (h : ¬given.Nodup)
  | uneven {row : List Column} (hrow : row ∈ rows) (hwidth : row.length ≠ given.length)
  | missing {id : ColumnId} {column : ColumnDef} (hid : id ∈ c.columnIds table) (hgiven : id ∉ given)
    (h : c.Requires id column)
  | null {row : List Column} {id : ColumnId} {value : Column} {column : ColumnDef} (hrow : row ∈ completed)
    (hcell : (id, value) ∈ columns.zip row) (hvalue : value = .null ∨ value = .param .null)
    (hcolumn : c.column? id = some column) (hnullable : column.nullable = false)

-- The insert has what was given, and behind it the values that `added` draws: one for each row and generator, in the
-- order of the rows.
structure Completes (i : Insert) (c : Catalog) (table : TableId) (given : List ColumnId) (rows : List (List Column))
    (added : List Completion) (before after : Draws) : Prop where
  table_eq : i.table = table
  columns_eq : i.columns = given ++ added.map (·.id)
  rows_eq : i.rows = rows.mapIdx fun n row => row ++ added.map fun x => .param (x.draw (before.count x.id + n))
  returning_eq : i.returning = []
  onConflict_eq : i.onConflict = none
  widths : ∀ row ∈ i.rows, row.length = i.columns.length
  nodup : i.columns.Nodup
  mem : ∀ id ∈ i.columns, id ∈ c.columnIds table
  counts : ∀ id, after.count id = before.count id + if id ∈ added.map (·.id) then rows.length else 0

variable {c : Catalog} {table : TableId} {given columns ids seen : List ColumnId} {rows : List (List Column)}
  {draws : Draws} {added : List Completion}

theorem checkColumns_eq_ok : checkColumns c table seen given = .ok () ↔
    (∀ id ∈ given, id.table = table ∧ id ∉ seen) ∧ given.Nodup := by
  induction given generalizing seen
  case nil => simp [checkColumns]
  case cons id r ih =>
    by_cases ht : id.table = table
    case neg => simp [checkColumns, ht]
    case pos =>
      by_cases hs : id ∈ seen
      case pos => simp [checkColumns, ht, hs]
      case neg =>
        simp only [checkColumns, ht, hs, ne_eq, not_true_eq_false, if_false, List.contains_eq_mem, decide_false,
          Bool.false_eq_true, ih, List.mem_cons, not_or, List.nodup_cons]
        grind

theorem checkWidths_eq_ok {width : Nat} :
    checkWidths c table width rows = .ok () ↔ ∀ row ∈ rows, row.length = width := by
  rw [checkWidths]
  split
  case h_1 row hrow =>
    have hne : row.length ≠ width := by simpa using List.find?_some hrow
    exact iff_of_false nofun fun h => hne (h row (List.mem_of_find?_eq_some hrow))
  case h_2 hnone => exact iff_of_true rfl (by simpa using hnone)

theorem checkNulls_eq_ok : checkNulls c table columns rows = .ok () ↔
    ∀ row ∈ rows, ∀ id value, (id, value) ∈ columns.zip row → value.isNullConstant = true → c.isNullable id = true := by
  simp only [checkNulls]
  split
  case h_1 id value h =>
    obtain ⟨row, hrow, hcell⟩ := List.mem_flatMap.mp (List.mem_of_find?_eq_some h)
    have hnull : value.isNullConstant = true ∧ c.isNullable id = false := by simpa using List.find?_some h
    exact iff_of_false nofun fun hall => by simpa [hnull.2] using hall row hrow id value hcell hnull.1
  case h_2 h =>
    refine iff_of_true rfl fun row hrow id value hcell hnull => ?_
    simpa [hnull] using List.find?_eq_none.mp h (id, value) (List.mem_flatMap.mpr ⟨row, hrow, hcell⟩)

theorem checkGiven_eq_ok : checkGiven c table given rows = .ok () ↔
    (∀ id ∈ given, id.table = table) ∧ given.Nodup ∧ ∀ row ∈ rows, row.length = given.length := by
  have hunit : (∃ u, checkColumns c table [] given = .ok u) ↔ checkColumns c table [] given = .ok () :=
    ⟨fun ⟨_, h⟩ => h, fun h => ⟨(), h⟩⟩
  rw [checkGiven, Result.bind_eq_ok, exists_and_right, hunit, checkColumns_eq_ok, checkWidths_eq_ok]
  simp only [List.not_mem_nil, not_false_eq_true, and_true, and_assoc]

-- An omitted column stops the completion exactly if it is required. Others are drawn for if they have a generator.
theorem completions_cons (c : Catalog) (table : TableId) (given : List ColumnId) (id : ColumnId) (r : List ColumnId) :
    (id ∉ given ∧ (∃ column, c.Requires id column) ∧ ∃ e, (completions c table given (id :: r)).2 = .error e) ∨
      (id ∉ given → ¬∃ column, c.Requires id column) ∧
        completions c table given (id :: r) =
          (generated c given [id] ++ (completions c table given r).1, (completions c table given r).2) := by
  by_cases hid : id ∈ given
  case pos => exact .inr ⟨absurd hid, by simp [completions, generated, hid]⟩
  case neg =>
    cases hcolumn : c.column? id
    case none =>
      refine .inr ⟨fun _ ⟨column, h⟩ => ?_, by simp [completions, generated, Catalog.generator?, hid, hcolumn]⟩
      cases hcolumn.symm.trans h.column_eq
    case some column =>
      have hrequires {other : ColumnDef} (h : c.Requires id other) : other = column := by
        simpa using h.column_eq.symm.trans hcolumn
      cases hdefault : column.default
      case some default =>
        refine .inr ⟨fun _ ⟨other, h⟩ => ?_, ?_⟩
        · have hnone := h.default
          rw [hrequires h, hdefault] at hnone
          cases hnone
        · cases default <;>
            simp [completions, completion?, generated, Catalog.generator?, hid, hcolumn, hdefault]
      case none =>
        cases hfree : column.nullable || column.autoIncrement
        case true =>
          refine .inr ⟨fun _ ⟨other, h⟩ => ?_, ?_⟩
          · have h := hrequires h ▸ h
            simp [h.nullable, h.autoIncrement] at hfree
          · simp [completions, completion?, generated, Catalog.generator?, hid, hcolumn, hdefault, hfree]
        case false =>
          rw [Bool.or_eq_false_iff] at hfree
          have herror : ∃ e, completion? c table id column = .error e := by
            simp [completion?, hdefault, hfree]
          obtain ⟨e, he⟩ := herror
          exact .inl ⟨hid, ⟨column, hcolumn, hfree.1, hdefault, hfree.2⟩, e, by simp [completions, hid, hcolumn, he]⟩

theorem completions_eq_ok : (completions c table given ids).2 = .ok () ↔
    ∀ id ∈ ids, id ∉ given → ¬∃ column, c.Requires id column := by
  induction ids
  case nil => simp [completions]
  case cons id r ih =>
    rw [List.forall_mem_cons, ← ih]
    rcases completions_cons c table given id r with ⟨hid, hrequired, e, he⟩ | ⟨hfree, heq⟩
    case inl => exact iff_of_false (by simp [he]) fun h => h.1 hid hrequired
    case inr =>
      rw [heq]
      exact (and_iff_right hfree).symm

theorem completions_eq_generated (h : (completions c table given ids).2 = .ok ()) :
    (completions c table given ids).1 = generated c given ids := by
  induction ids
  case nil => rfl
  case cons id r ih =>
    rcases completions_cons c table given id r with ⟨-, -, e, he⟩ | ⟨-, heq⟩
    case inl => cases he.symm.trans h
    case inr =>
      rw [heq] at h ⊢
      rw [ih h, generated, generated, generated, ← List.filterMap_append, ← List.filter_append, List.singleton_append]

theorem ids_generated (c : Catalog) (given ids : List ColumnId) :
    (generated c given ids).map (·.id) = ids.filter fun id => id ∉ given && (c.generator? id).isSome := by
  induction ids
  case nil => rfl
  case cons id r ih =>
    by_cases hid : id ∈ given
    case pos => simpa [generated, hid] using ih
    case neg => cases h : c.generator? id <;> simpa [generated, hid, h] using ih

theorem count_drawn (hadded : (added.map (·.id)).Nodup) (draws : Draws) (n : Nat) (id : ColumnId) :
    (drawn draws added n).count id = draws.count id + if id ∈ added.map (·.id) then n else 0 := by
  induction added generalizing draws
  case nil => rfl
  case cons x r ih =>
    rw [List.map_cons, List.nodup_cons] at hadded
    rw [drawn, List.foldl_cons, ← drawn, ih hadded.2, Draws.count_advance]
    by_cases hid : id = x.id
    case pos => simp only [hid, hadded.1, List.map_cons, List.mem_cons, true_or, if_true, if_false, Nat.add_zero]
    case neg => simp only [hid, List.map_cons, List.mem_cons, false_or, if_false, Nat.add_zero]

-- Of an insert without a fault, each check passes.
theorem multi_of_not_faulty (h : ¬Faulty c table given rows (given ++ (generated c given (c.columnIds table)).map (·.id))
      (rows.mapIdx fun n row => completedRow draws (generated c given (c.columnIds table)) row n)) :
    multi c table given rows draws =
      (.ok ⟨table, given ++ (generated c given (c.columnIds table)).map (·.id),
        rows.mapIdx fun n row => completedRow draws (generated c given (c.columnIds table)) row n, [], none⟩,
        drawn draws (generated c given (c.columnIds table)) rows.length) := by
  have hgiven : checkGiven c table given rows = .ok () := by
    refine checkGiven_eq_ok.mpr ⟨fun id hid => ?_, ?_, fun row hrow => ?_⟩
    · exact Classical.not_not.mp fun ht => h (.foreign hid ht)
    · exact Classical.not_not.mp fun hn => h (.repeated hn)
    · exact Classical.not_not.mp fun hw => h (.uneven hrow hw)
  have homitted : (completions c table given (c.columnIds table)).2 = .ok () :=
    completions_eq_ok.mpr fun id hid hn ⟨column, hr⟩ => h (.missing hid hn hr)
  have hnulls : checkNulls c table (given ++ (generated c given (c.columnIds table)).map (·.id))
      (rows.mapIdx fun n row => completedRow draws (generated c given (c.columnIds table)) row n) = .ok () := by
    refine checkNulls_eq_ok.mpr fun row hrow id value hcell hvalue => Bool.not_eq_false _ ▸ fun hnullable => ?_
    obtain ⟨column, hcolumn, hnullable⟩ := Catalog.isNullable_eq_false.mp hnullable
    exact h (.null hrow hcell (Column.isNullConstant_iff.mp hvalue) hcolumn hnullable)
  simp only [multi, hgiven, completions_eq_generated homitted, homitted, hnulls]
  rfl

theorem not_faulty_of_multi (h : (multi c table given rows draws).1 = .ok i) :
    ¬Faulty c table given rows (given ++ (generated c given (c.columnIds table)).map (·.id))
      (rows.mapIdx fun n row => completedRow draws (generated c given (c.columnIds table)) row n) := by
  simp only [multi] at h
  split at h
  case h_1 => cases h
  case h_2 hgiven =>
    obtain ⟨⟨⟩, homitted, h⟩ := Result.bind_eq_ok.mp h
    obtain ⟨⟨⟩, hnulls, -⟩ := Result.bind_eq_ok.mp h
    obtain ⟨htables, hnodup, hwidths⟩ := checkGiven_eq_ok.mp hgiven
    rw [completions_eq_generated homitted, checkNulls_eq_ok] at hnulls
    intro hfault
    cases hfault
    case foreign hid ht => exact ht (htables _ hid)
    case repeated hn => exact hn hnodup
    case uneven hrow hw => exact hw (hwidths _ hrow)
    case missing hid hn hr => exact completions_eq_ok.mp homitted _ hid hn ⟨_, hr⟩
    case null hrow hcell hvalue hcolumn hnullable =>
      have hnullable := Catalog.isNullable_eq_false.mpr ⟨_, hcolumn, hnullable⟩
      exact nomatch hnullable.symm.trans (hnulls _ hrow _ _ hcell (Column.isNullConstant_iff.mpr hvalue))

theorem nodup_columnIds (c : Catalog) (table : TableId) : (c.columnIds table).Nodup :=
  List.pairwise_map.mpr (List.nodup_range.imp fun hne h => hne (congrArg ColumnId.column h))

theorem mem_generated {id : ColumnId} (hid : id ∈ (generated c given (c.columnIds table)).map (·.id)) :
    id ∈ c.columnIds table ∧ id ∉ given := by
  rw [ids_generated, List.mem_filter, Bool.and_eq_true, decide_eq_true_eq] at hid
  exact ⟨hid.1, hid.2.1⟩

theorem nodup_generated (c : Catalog) (table : TableId) (given : List ColumnId) :
    ((generated c given (c.columnIds table)).map (·.id)).Nodup := by
  rw [ids_generated]
  exact (nodup_columnIds c table).filter _

theorem width_of_not_faulty (hn : ¬Faulty c table given rows columns completed) :
    ∀ row ∈ rows, row.length = given.length :=
  fun _ hrow => Classical.not_not.mp fun hw => hn (.uneven hrow hw)

-- A completed row has a value for each column.
theorem length_of_not_faulty {added : List Completion} (hn : ¬Faulty c table given rows (given ++ added.map (·.id))
      (rows.mapIdx fun n row => completedRow draws added row n)) :
    ∀ row ∈ rows.mapIdx fun n row => completedRow draws added row n,
      row.length = (given ++ added.map (·.id)).length := by
  intro row hrow
  obtain ⟨n, hlt, rfl⟩ := List.mem_mapIdx.mp hrow
  have hwidth : rows[n].length = given.length := width_of_not_faulty hn _ (List.getElem_mem hlt)
  simp [completedRow, hwidth]

theorem completes_of_not_faulty (hgiven : ∀ id ∈ given, (c.column? id).isSome)
    (hn : ¬Faulty c table given rows (given ++ (generated c given (c.columnIds table)).map (·.id))
      (rows.mapIdx fun n row => completedRow draws (generated c given (c.columnIds table)) row n)) :
    Completes ⟨table, given ++ (generated c given (c.columnIds table)).map (·.id),
        rows.mapIdx fun n row => completedRow draws (generated c given (c.columnIds table)) row n, [], none⟩
      c table given rows (generated c given (c.columnIds table)) draws
      (drawn draws (generated c given (c.columnIds table)) rows.length) where
  table_eq := rfl
  columns_eq := rfl
  rows_eq := rfl
  returning_eq := rfl
  onConflict_eq := rfl
  widths := length_of_not_faulty hn
  nodup := by
    have hgivenNodup : given.Nodup := Classical.not_not.mp fun h => hn (.repeated h)
    refine List.nodup_append.mpr ⟨hgivenNodup, nodup_generated c table given, ?_⟩
    rintro id hid _ hid' rfl
    exact (mem_generated hid').2 hid
  mem := by
    intro id hid
    rcases List.mem_append.mp hid with hid | hid
    case inr => exact (mem_generated hid).1
    case inl =>
      have ht : id.table = table := Classical.not_not.mp fun ht => hn (.foreign hid ht)
      refine Catalog.mem_columnIds.mpr ⟨ht, ?_⟩
      simpa [Catalog.column?, ht] using hgiven id hid
  counts := count_drawn (nodup_generated c table given) draws rows.length

-- An insert of columns of the catalog fails exactly if there is a fault. Otherwise the rows are completed.
theorem multi_completes (hgiven : ∀ id ∈ given, (c.column? id).isSome) (rows : List (List Column)) (draws : Draws) :
    let added := generated c given (c.columnIds table)
    let completed := rows.mapIdx fun n row => row ++ added.map fun x => .param (x.draw (draws.count x.id + n))
    ((∃ e, (multi c table given rows draws).1 = .error e) ↔
        Faulty c table given rows (given ++ added.map (·.id)) completed) ∧
      ∀ i, (multi c table given rows draws).1 = .ok i →
        i.Completes c table given rows added draws (multi c table given rows draws).2 := by
  intro added completed
  constructor
  case left =>
    constructor
    case mp =>
      rintro ⟨e, he⟩
      refine Classical.not_not.mp fun hn => ?_
      rw [multi_of_not_faulty hn] at he
      cases he
    case mpr =>
      intro hfault
      cases hm : (multi c table given rows draws).1
      case error e => exact ⟨e, rfl⟩
      case ok i => exact absurd hfault (not_faulty_of_multi hm)
  case right =>
    intro i hi
    have hn := not_faulty_of_multi hi
    rw [multi_of_not_faulty hn] at hi ⊢
    cases hi
    exact completes_of_not_faulty hgiven hn

-- The generator of the last column is asked twice, and the first column counts by itself.
theorem multi_of_two_rows :
    let column (name : String) (auto : Bool) (default : Option ColumnDefault) : ColumnDef :=
      ⟨name, .int .bits64, false, auto, false, default⟩
    let counter : ColumnDefault := .client fun n => .int (Int64.ofNat (n + 7))
    let c : Catalog := ⟨[⟨"t", [column "id" true none, column "a" false none, column "b" false (some counter)],
      [0], [], []⟩]⟩
    let rows : List (List Column) := [[.param (.int 1)], [.param (.int 2)]]
    (∀ id ∈ [ColumnId.mk 0 1], (c.column? id).isSome) ∧ ∃ i, (multi c 0 [⟨0, 1⟩] rows .none).1 = .ok i ∧
      i.columns = [⟨0, 1⟩, ⟨0, 2⟩] ∧ i.rows = [[.param (.int 1), .param (.int 7)], [.param (.int 2), .param (.int 8)]] ∧
      (multi c 0 [⟨0, 1⟩] rows .none).2.count ⟨0, 2⟩ = 2 := by
  intro column counter c rows
  have hgiven : ∀ id ∈ [ColumnId.mk 0 1], (c.column? id).isSome := by decide
  obtain ⟨-, h⟩ := @multi_completes _ 0 _ hgiven rows .none
  have hcompletes := h _ rfl
  exact ⟨hgiven, _, rfl, hcompletes.columns_eq, hcompletes.rows_eq, hcompletes.counts ⟨0, 2⟩⟩

end Insert

end PolySql
