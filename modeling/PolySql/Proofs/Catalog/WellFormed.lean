import PolySql.Catalog.Declaration
import PolySql.Proofs.Sql.Outcome

namespace PolySql

-- Columns of the table at a position, each of which refers to one column of the same or an earlier table.
structure ForeignKey.Paired (key : ForeignKey) (c : Catalog) (home : TableId) : Prop where
  columns_ne : key.columns ≠ []
  length_eq : key.columns.length = key.foreignColumns.length
  own : ∀ id ∈ key.columns, id ∈ c.columnIds home
  earlier : key.foreignTable ≤ home
  foreign : ∀ id ∈ key.foreignColumns, id ∈ c.columnIds key.foreignTable

structure TableDef.WellFormed (t : TableDef) (c : Catalog) (home : TableId) : Prop where
  name_ne : t.name ≠ ""
  columns_ne : t.columns ≠ []
  nodup_names : (t.columns.map (·.name)).Nodup
  key_ne : t.primaryKey ≠ []
  nodup_key : t.primaryKey.Nodup
  filled : ∀ i ∈ t.primaryKey, ∃ column, t.columns[i]? = some column ∧ column.nullable = false
  marked : ∀ i, t.isKey i = true ↔ i ∈ t.primaryKey
  counted : (t.columns.filter (·.autoIncrement)).length ≤ 1
  counted_int : ∀ column ∈ t.columns, column.autoIncrement = true → column.type.isInt = true
  indices : ∀ index ∈ t.indices, index.columns ≠ [] ∧ ∀ i ∈ index.columns, i < t.columns.length
  foreignKeys : ∀ key ∈ t.foreignKeys, key.Paired c home

structure Catalog.WellFormed (c : Catalog) : Prop where
  nodup_names : (c.tables.map (·.name)).Nodup
  tables : ∀ id t, c.table? id = some t → t.WellFormed c id

-- Every position that the catalog gives or keeps is one of a table or of a column.
structure Catalog.InBounds (c : Catalog) : Prop where
  find : ∀ name id, c.find? name = some id → ∃ t, c.table? id = some t ∧ t.name = name
  columnId : ∀ table name id, c.columnId? table name = some id →
    id ∈ c.columnIds table ∧ c.columnName id = name
  columnIds : ∀ table, ∀ id ∈ c.columnIds table, (c.column? id).isSome
  keyIds : ∀ table, ∀ id ∈ c.keyIds table, (c.column? id).isSome
  keyColumns : ∀ id t, c.table? id = some t → t.keyColumns.map some = t.primaryKey.map (t.columns[·]?)
  indexColumns : ∀ id t, c.table? id = some t → ∀ index ∈ t.indices, ∀ i ∈ index.columns, (t.columns[i]?).isSome
  references : ∀ id t, c.table? id = some t → ∀ key ∈ t.foreignKeys,
    (c.table? key.foreignTable).isSome ∧ ∀ id ∈ key.columns ++ key.foreignColumns, (c.column? id).isSome

namespace Catalog

variable {c c' : Catalog} {table : TableId} {id : ColumnId}

theorem columns_of_table? (h : c.table? table = some t) : c.columns table = t.columns := by
  simp [columns, h]

theorem tableName_of_table? (h : c.table? table = some t) : c.tableName table = t.name := by
  simp [tableName, h]

theorem mem_columnIds : id ∈ c.columnIds table ↔ id.table = table ∧ id.column < (c.columns table).length := by
  cases id
  simp only [columnIds, List.mem_map, List.mem_range, ColumnId.mk.injEq]
  constructor
  case mp =>
    rintro ⟨i, hi, rfl, rfl⟩
    exact ⟨rfl, hi⟩
  case mpr =>
    rintro ⟨rfl, hi⟩
    exact ⟨_, hi, rfl, rfl⟩

theorem isSome_column? (h : id ∈ c.columnIds table) : (c.column? id).isSome := by
  obtain ⟨rfl, hi⟩ := mem_columnIds.mp h
  simp [column?, hi]

-- A table keeps its position as the catalog grows.
theorem table?_of_isPrefix (h : c.tables <+: c'.tables) (hid : table < c.tables.length) :
    c'.table? table = c.table? table := by
  obtain ⟨tables, h⟩ := h
  rw [table?, table?, ← h, List.getElem?_append_left hid]

theorem columnIds_of_isPrefix (h : c.tables <+: c'.tables) (hid : table < c.tables.length) :
    c'.columnIds table = c.columnIds table := by
  simp [columnIds, columns, table?_of_isPrefix h hid]

theorem tableName_of_isPrefix (h : c.tables <+: c'.tables) (hid : table < c.tables.length) :
    c'.tableName table = c.tableName table := by
  simp [tableName, table?_of_isPrefix h hid]

theorem columnName_of_isPrefix (h : c.tables <+: c'.tables) (hid : id.table < c.tables.length) :
    c'.columnName id = c.columnName id := by
  simp [columnName, column?, columns, table?_of_isPrefix h hid]

theorem columnNames_of_isPrefix {ids : List ColumnId} (h : c.tables <+: c'.tables) (htable : table < c.tables.length)
    (hids : ∀ id ∈ ids, id ∈ c.columnIds table) : ids.map c'.columnName = ids.map c.columnName := by
  refine List.map_congr_left fun id hid => columnName_of_isPrefix h ?_
  rwa [(mem_columnIds.mp (hids id hid)).1]

theorem table?_concat {ts : List TableDef} {t : TableDef} (h : ts ++ [t] <+: c.tables) :
    c.table? ts.length = some t := by
  rw [table?_of_isPrefix (c := ⟨ts ++ [t]⟩) h (by simp), table?, List.getElem?_concat_length]

theorem lt_of_table? (h : c.table? table = some t) : table < c.tables.length := by
  obtain ⟨hid, -⟩ := List.getElem?_eq_some_iff.mp h
  exact hid

end Catalog

theorem ForeignKey.Paired.of_isPrefix {key : ForeignKey} {c c' : Catalog} {home : TableId} (hk : key.Paired c home)
    (hhome : home < c.tables.length) (h : c.tables <+: c'.tables) : key.Paired c' home where
  columns_ne := hk.columns_ne
  length_eq := hk.length_eq
  own := by
    rw [Catalog.columnIds_of_isPrefix h hhome]
    exact hk.own
  earlier := hk.earlier
  foreign := by
    rw [Catalog.columnIds_of_isPrefix h (Nat.lt_of_le_of_lt hk.earlier hhome)]
    exact hk.foreign

theorem TableDef.WellFormed.of_isPrefix {t : TableDef} {c c' : Catalog} {home : TableId} (ht : t.WellFormed c home)
    (hhome : home < c.tables.length) (h : c.tables <+: c'.tables) : t.WellFormed c' home :=
  { ht with foreignKeys := fun key hkey => (ht.foreignKeys key hkey).of_isPrefix hhome h }

namespace Catalog.WellFormed

variable {c : Catalog}

theorem empty : Catalog.empty.WellFormed where
  nodup_names := List.nodup_nil
  tables := nofun

-- A table that is well-formed at the end of the catalog, under a new name.
theorem concat {t : TableDef} (hc : c.WellFormed) (ht : t.WellFormed ⟨c.tables ++ [t]⟩ c.tables.length)
    (hname : t.name ∉ c.tables.map (·.name)) : WellFormed ⟨c.tables ++ [t]⟩ where
  nodup_names := by
    rw [List.map_append, List.nodup_append]
    refine ⟨hc.nodup_names, by simp, ?_⟩
    rintro a ha b hb rfl
    rw [List.map_singleton, List.mem_singleton] at hb
    exact hname (hb ▸ ha)
  tables := by
    intro id s hs
    have hgrow : c.tables <+: c.tables ++ [t] := List.prefix_append _ _
    rcases Nat.lt_trichotomy id c.tables.length with hid | rfl | hid
    case inl =>
      rw [table?_of_isPrefix hgrow hid] at hs
      exact (hc.tables id s hs).of_isPrefix hid hgrow
    case inr.inl =>
      obtain rfl := Option.some.inj ((table?_concat List.prefix_rfl).symm.trans hs)
      exact ht
    case inr.inr =>
      have hlt : id < (c.tables ++ [t]).length := lt_of_table? hs
      rw [List.length_append, List.length_singleton] at hlt
      exact absurd hid (Nat.not_lt.mpr (Nat.le_of_lt_succ hlt))

theorem isSome_foreignTable {t : TableDef} {key : ForeignKey} {id : TableId} (hc : c.WellFormed)
    (ht : c.table? id = some t) (hkey : key ∈ t.foreignKeys) : (c.table? key.foreignTable).isSome := by
  have hle := ((hc.tables id t ht).foreignKeys key hkey).earlier
  simp [table?, Nat.lt_of_le_of_lt hle (lt_of_table? ht)]

theorem inBounds (hc : c.WellFormed) : c.InBounds where
  find := by
    intro name id h
    obtain ⟨hid, hname, -⟩ := List.findIdx?_eq_some_iff_getElem.mp h
    exact ⟨c.tables[id], List.getElem?_eq_getElem hid, by simpa using hname⟩
  columnId := by
    intro table name id h
    obtain ⟨t, ht, h⟩ := Option.bind_eq_some_iff.mp h
    obtain ⟨i, hi, ⟨⟩⟩ := Option.bind_eq_some_iff.mp h
    obtain ⟨hlt, hname, -⟩ := List.findIdx?_eq_some_iff_getElem.mp hi
    refine ⟨mem_columnIds.mpr ⟨rfl, by rwa [columns_of_table? ht]⟩, ?_⟩
    simpa [columnName, column?, columns_of_table? ht, List.getElem?_eq_getElem hlt] using hname
  columnIds := fun _ _ => isSome_column?
  keyIds := by
    intro table id hid
    cases ht : c.table? table
    case none => simp [keyIds, ht] at hid
    case some t =>
      simp only [keyIds, ht, Option.map_some, Option.getD_some, List.mem_map] at hid
      obtain ⟨i, hi, rfl⟩ := hid
      obtain ⟨column, hcolumn, -⟩ := (hc.tables table t ht).filled i hi
      simp [column?, columns_of_table? ht, hcolumn]
  keyColumns := by
    intro id t ht
    have hfilled := (hc.tables id t ht).filled
    rw [TableDef.keyColumns]
    generalize t.primaryKey = key at hfilled
    induction key
    case nil => rfl
    case cons i key ih =>
      rw [List.forall_mem_cons] at hfilled
      obtain ⟨⟨column, hcolumn, -⟩, hkey⟩ := hfilled
      simp [hcolumn, ih hkey]
  indexColumns := by
    intro id t ht index hindex i hi
    simpa using ((hc.tables id t ht).indices index hindex).2 i hi
  references := by
    intro id t ht key hkey
    have hpaired := (hc.tables id t ht).foreignKeys key hkey
    refine ⟨hc.isSome_foreignTable ht hkey, fun id hid => ?_⟩
    rcases List.mem_append.mp hid with hid | hid
    · exact isSome_column? (hpaired.own id hid)
    · exact isSome_column? (hpaired.foreign id hid)

end Catalog.WellFormed

end PolySql
