import PolySql.Proofs.Catalog.WellFormed

namespace PolySql

def TableDef.columnName (t : TableDef) (i : Nat) : String :=
  ((t.columns[i]?).map (·.name)).getD ""

-- The index is the declared one, of the columns with the declared names.
structure IndexDecl.Declares (i : IndexDecl) (t : TableDef) (index : IndexDef) : Prop where
  name_eq : index.name = i.name
  columns_eq : index.columns.map t.columnName = i.columns
  unique_eq : index.unique = i.unique

structure ForeignKeyDecl.Declares (f : ForeignKeyDecl) (c : Catalog) (key : ForeignKey) : Prop where
  columns_eq : key.columns.map c.columnName = f.columns
  table_eq : c.tableName key.foreignTable = f.foreignTable
  foreign_eq : key.foreignColumns.map c.columnName = f.foreignColumns

-- The table is the declared one: its positions, in the catalog, are those of the declared names.
structure TableDecl.Declares (d : TableDecl) (c : Catalog) (t : TableDef) : Prop where
  name_eq : t.name = d.name
  columns_eq : t.columns = d.columns
  key_eq : t.primaryKey.map t.columnName = d.primaryKey
  indices : List.Forall₂ (·.Declares t ·) d.indices t.indices
  foreignKeys : List.Forall₂ (·.Declares c ·) d.foreignKeys t.foreignKeys

namespace TableDecl

variable {d : TableDecl} {c c' : Catalog} {t : TableDef} {name : String} {names : List String}
  {key positions : List Nat} {table : TableId}

theorem of_check {holds : Bool} (h : d.check holds message = .ok ()) : holds = true := by
  cases holds
  case false => nomatch h
  case true => rfl

theorem of_firstRepeated? {seen : List String} (h : firstRepeated? seen names = none) :
    names.Nodup ∧ ∀ name ∈ names, name ∉ seen := by
  induction names generalizing seen
  case nil => simp
  case cons name names ih =>
    rw [firstRepeated?] at h
    split at h
    case isTrue => nomatch h
    case isFalse hname =>
      obtain ⟨hnodup, hseen⟩ := ih h
      simp only [List.mem_cons, not_or] at hseen
      refine ⟨List.nodup_cons.mpr ⟨fun hmem => (hseen name hmem).1 rfl, hnodup⟩, ?_⟩
      rw [List.forall_mem_cons]
      exact ⟨by simpa using hname, fun other hother => (hseen other hother).2⟩

theorem of_checkColumnNames (h : d.checkColumnNames = .ok ()) : (d.columns.map (·.name)).Nodup := by
  rw [checkColumnNames] at h
  split at h
  case h_1 => cases h
  case h_2 hnone => exact (of_firstRepeated? hnone).1

theorem of_position (h : d.position name = .ok i) : i < d.columns.length ∧
    ((d.columns[i]?).map (·.name)).getD "" = name := by
  rw [position] at h
  split at h
  case h_1 i hi =>
    cases h
    obtain ⟨hlt, hname, -⟩ := List.findIdx?_eq_some_iff_getElem.mp hi
    exact ⟨hlt, by simpa [List.getElem?_eq_getElem hlt] using hname⟩
  case h_2 => nomatch h

theorem of_positions (h : names.mapM d.position = .ok positions) : (∀ i ∈ positions, i < d.columns.length) ∧
    positions.map (fun i => ((d.columns[i]?).map (·.name)).getD "") = names := by
  rw [Result.mapM_eq_ok] at h
  induction h
  case nil => simp
  case cons hi _ ih =>
    obtain ⟨hlt, hname⟩ := of_position hi
    obtain ⟨hlts, hnames⟩ := ih
    exact ⟨List.forall_mem_cons.mpr ⟨hlt, hlts⟩, by rw [List.map_cons, hname, hnames]⟩

theorem of_key (h : d.key = .ok key) :
    d.primaryKey ≠ [] ∧ d.primaryKey.mapM d.position = .ok key ∧ key.Nodup := by
  obtain ⟨⟨⟩, hne, h⟩ := Result.bind_eq_ok.mp h
  obtain ⟨positions, hpositions, h⟩ := Result.bind_eq_ok.mp h
  obtain ⟨⟨⟩, hnodup, ⟨⟩⟩ := Result.bind_eq_ok.mp h
  exact ⟨by simpa using of_check hne, hpositions, by simpa using of_check hnodup⟩

-- What is checked of the columns from the given position on, of which none may count by itself if one before does.
theorem of_checkColumns {columns : List ColumnDef} (h : d.checkColumns key counted i columns = .ok ()) :
    (∀ j column, columns[j]? = some column → i + j ∈ key → column.nullable = false) ∧
      (columns.filter (·.autoIncrement)).length + counted.toNat ≤ 1 ∧
      ∀ column ∈ columns, column.autoIncrement = true → column.type.isInt = true := by
  induction columns generalizing counted i
  case nil =>
    have hcounted : counted.toNat ≤ 1 := Bool.toNat_le counted
    exact ⟨by simp, by simpa using hcounted, by simp⟩
  case cons column columns ih =>
    rw [checkColumns] at h
    obtain ⟨⟨⟩, hfilled, h⟩ := Result.bind_eq_ok.mp h
    have hfilled := of_check hfilled
    -- What the first column adds to what is asked of the others.
    have hrest : d.checkColumns key (counted || column.autoIncrement) (i + 1) columns = .ok () ∧
        (column.autoIncrement = true → column.type.isInt = true ∧ counted = false) := by
      cases hauto : column.autoIncrement
      case false =>
        simp only [hauto] at h
        exact ⟨h, nofun⟩
      case true =>
        simp only [hauto] at h
        obtain ⟨⟨⟩, hint, h⟩ := Result.bind_eq_ok.mp h
        obtain ⟨⟨⟩, hcounted, h⟩ := Result.bind_eq_ok.mp h
        exact ⟨h, fun _ => ⟨of_check hint, by simpa using of_check hcounted⟩⟩
    obtain ⟨h, hfirst⟩ := hrest
    obtain ⟨hkeys, hcount, hints⟩ := ih h
    refine ⟨?_, ?_, List.forall_mem_cons.mpr ⟨fun hauto => (hfirst hauto).1, hints⟩⟩
    case refine_1 =>
      intro j other hj hkey
      cases j
      case zero =>
        obtain rfl := Option.some.inj hj
        simpa [show i ∈ key from hkey] using hfilled
      case succ j => exact hkeys j other hj (by rwa [Nat.add_assoc, Nat.add_comm 1 j])
    case refine_2 =>
      cases hauto : column.autoIncrement
      case false => simpa [hauto] using hcount
      case true => simpa [hauto, (hfirst hauto).2] using hcount

theorem of_index {i : IndexDecl} {index : IndexDef} (h : d.index i = .ok index) (ht : t.columns = d.columns) :
    i.Declares t index ∧ index.columns ≠ [] ∧ ∀ j ∈ index.columns, j < t.columns.length := by
  obtain ⟨⟨⟩, hne, h⟩ := Result.bind_eq_ok.mp h
  obtain ⟨positions, hpositions, ⟨⟩⟩ := Result.bind_eq_ok.mp h
  obtain ⟨hlts, hnames⟩ := of_positions hpositions
  rw [← ht] at hlts hnames
  refine ⟨⟨rfl, hnames, rfl⟩, ?_, hlts⟩
  rintro rfl
  have hne := of_check hne
  simp [← hnames] at hne

-- A position that was found by the name of a column in one table of the catalog.
structure Found (c : Catalog) (table : TableId) (name : String) (i : Nat) : Prop where
  mem : ⟨table, i⟩ ∈ c.columnIds table
  name_eq : c.columnName ⟨table, i⟩ = name

theorem Found.of_forall₂ (h : List.Forall₂ (Found c table) names positions) :
    (∀ id ∈ positions.map (ColumnId.mk table), id ∈ c.columnIds table) ∧
      (positions.map (ColumnId.mk table)).map c.columnName = names := by
  induction h
  case nil => simp
  case cons hfound _ ih =>
    simp only [List.map_cons, List.forall_mem_cons, hfound.name_eq, ih.2, and_true]
    exact ⟨hfound.mem, ih.1⟩

section

variable (hc : c.tables ++ [t] <+: c'.tables) (ht : t.columns = d.columns) (hd : t.name = d.name)

include hc ht in
theorem found_position (h : d.position name = .ok i) : Found c' c.tables.length name i := by
  obtain ⟨hlt, hname⟩ := of_position h
  have hcolumns := (Catalog.columns_of_table? (Catalog.table?_concat hc)).trans ht
  refine ⟨Catalog.mem_columnIds.mpr ⟨rfl, by rwa [hcolumns]⟩, ?_⟩
  rwa [Catalog.columnName, Catalog.column?, hcolumns]

include hc hd in
theorem of_foreignTable (h : d.foreignTable c name = .ok table) :
    table ≤ c.tables.length ∧ c'.tableName table = name := by
  rw [foreignTable] at h
  split at h
  case isTrue hself =>
    cases h
    exact ⟨Nat.le_refl _, by rw [Catalog.tableName_of_table? (Catalog.table?_concat hc), hd, hself]⟩
  case isFalse =>
    split at h
    case h_1 id hid =>
      cases h
      obtain ⟨hlt, hname, -⟩ := List.findIdx?_eq_some_iff_getElem.mp hid
      refine ⟨Nat.le_of_lt hlt, ?_⟩
      rw [Catalog.tableName_of_isPrefix ((List.prefix_append _ _).trans hc) hlt]
      simpa [Catalog.tableName, Catalog.table?, List.getElem?_eq_getElem hlt] using hname
    case h_2 => cases h

include hc ht in
theorem found_foreignPosition (htable : table ≤ c.tables.length) (h : d.foreignPosition c table name = .ok i) :
    Found c' table name i := by
  rw [foreignPosition] at h
  split at h
  case isTrue hself =>
    subst hself
    exact found_position hc ht h
  case isFalse hother =>
    have hlt : table < c.tables.length := Nat.lt_of_le_of_ne htable hother
    have hgrow : c.tables <+: c'.tables := (List.prefix_append _ _).trans hc
    split at h
    case h_1 id hid =>
      cases h
      obtain ⟨other, hs, hid⟩ := Option.bind_eq_some_iff.mp hid
      obtain ⟨i, hi, ⟨⟩⟩ := Option.bind_eq_some_iff.mp hid
      obtain ⟨hcolumn, hname, -⟩ := List.findIdx?_eq_some_iff_getElem.mp hi
      have hcolumns := Catalog.columns_of_table? ((Catalog.table?_of_isPrefix hgrow hlt).trans hs)
      refine ⟨Catalog.mem_columnIds.mpr ⟨rfl, by rwa [hcolumns]⟩, ?_⟩
      simpa [Catalog.columnName, Catalog.column?, hcolumns, List.getElem?_eq_getElem hcolumn] using hname
    case h_2 => cases h

include hc ht hd in
theorem of_foreignKey {f : ForeignKeyDecl} {key : ForeignKey} (h : d.foreignKey c f = .ok key) :
    f.Declares c' key ∧ key.Paired c' c.tables.length := by
  obtain ⟨columns, hcolumns, h⟩ := Result.bind_eq_ok.mp h
  obtain ⟨table, htable, h⟩ := Result.bind_eq_ok.mp h
  obtain ⟨foreign, hforeign, h⟩ := Result.bind_eq_ok.mp h
  obtain ⟨⟨⟩, hpaired, ⟨⟩⟩ := Result.bind_eq_ok.mp h
  obtain ⟨hle, hname⟩ := of_foreignTable hc hd htable
  rw [Result.mapM_eq_ok] at hcolumns hforeign
  obtain ⟨hown, hownNames⟩ := Found.of_forall₂ (hcolumns.imp fun _ _ => found_position hc ht)
  obtain ⟨hmem, hforeignNames⟩ := Found.of_forall₂ (hforeign.imp fun _ _ => found_foreignPosition hc ht hle)
  have hpaired := of_check hpaired
  simp only [Bool.and_eq_true, Bool.not_eq_true', List.isEmpty_eq_false_iff, beq_iff_eq] at hpaired
  exact ⟨⟨hownNames, hname, hforeignNames⟩,
    ⟨by simpa using hpaired.1, by simpa using hpaired.2, hown, hle, hmem⟩⟩

end

-- What a table is made of, and what was checked of it first.
theorem define_eq_ok (h : d.define c = .ok t) : ∃ key indices foreignKeys, d.name.isEmpty = false ∧
    (c.find? d.name).isNone = true ∧ d.columns.isEmpty = false ∧ d.checkColumnNames = .ok () ∧ d.key = .ok key ∧
    d.checkColumns key false 0 d.columns = .ok () ∧ d.indices.mapM d.index = .ok indices ∧
    d.foreignKeys.mapM (d.foreignKey c) = .ok foreignKeys ∧ t = ⟨d.name, d.columns, key, indices, foreignKeys⟩ := by
  rw [define] at h
  split at h
  case isTrue => nomatch h
  case isFalse hname =>
    obtain ⟨⟨⟩, hnew, h⟩ := Result.bind_eq_ok.mp h
    obtain ⟨⟨⟩, hcolumns, h⟩ := Result.bind_eq_ok.mp h
    obtain ⟨⟨⟩, hnames, h⟩ := Result.bind_eq_ok.mp h
    obtain ⟨key, hkey, h⟩ := Result.bind_eq_ok.mp h
    obtain ⟨⟨⟩, hchecked, h⟩ := Result.bind_eq_ok.mp h
    obtain ⟨indices, hindices, h⟩ := Result.bind_eq_ok.mp h
    obtain ⟨foreignKeys, hforeign, ⟨⟩⟩ := Result.bind_eq_ok.mp h
    exact ⟨key, indices, foreignKeys, by simpa using hname, of_check hnew, by simpa using of_check hcolumns, hnames, hkey,
      hchecked, hindices, hforeign, rfl⟩

theorem of_define (h : d.define c = .ok t) : t.name ∉ c.tables.map (·.name) ∧
    d.Declares ⟨c.tables ++ [t]⟩ t ∧ t.WellFormed ⟨c.tables ++ [t]⟩ c.tables.length := by
  obtain ⟨key, indices, foreignKeys, hname, hnew, hcolumns, hnames, hkey, hchecked, hindices, hforeign, rfl⟩ :=
    define_eq_ok h
  have hnew : ∀ other ∈ c.tables, ¬other.name = d.name := by simpa [Catalog.find?] using hnew
  obtain ⟨hkeyNe, hpositions, hkeyNodup⟩ := of_key hkey
  obtain ⟨hlts, hkeyNames⟩ := of_positions hpositions
  obtain ⟨hfilled, hcounted, hints⟩ := of_checkColumns hchecked
  refine ⟨by simpa using hnew, ⟨rfl, rfl, hkeyNames, ?_, ?_⟩, ?_⟩
  case refine_1 =>
    rw [Result.mapM_eq_ok] at hindices
    exact hindices.imp fun _ _ hi => (of_index hi rfl).1
  case refine_2 =>
    rw [Result.mapM_eq_ok] at hforeign
    exact hforeign.imp fun _ _ hf => (of_foreignKey List.prefix_rfl rfl rfl hf).1
  case refine_3 =>
    exact {
      name_ne := by simpa using hname
      columns_ne := by simpa using hcolumns
      nodup_names := of_checkColumnNames hnames
      key_ne := by
        rintro rfl
        exact hkeyNe hkeyNames.symm
      nodup_key := hkeyNodup
      filled := fun i hi => by
        have hcolumn := List.getElem?_eq_getElem (hlts i hi)
        exact ⟨_, hcolumn, hfilled i _ hcolumn (by rwa [Nat.zero_add])⟩
      marked := fun i => List.contains_iff_mem
      counted := by simpa using hcounted
      counted_int := hints
      indices := Result.forall_of_mapM hindices fun _ _ _ hi => (of_index hi rfl).2
      foreignKeys := Result.forall_of_mapM hforeign fun _ _ _ hf => (of_foreignKey List.prefix_rfl rfl rfl hf).2 }

end TableDecl

theorem ForeignKeyDecl.Declares.of_isPrefix {f : ForeignKeyDecl} {key : ForeignKey} {c c' : Catalog} {home : TableId}
    (hf : f.Declares c key) (hk : key.Paired c home) (hhome : home < c.tables.length) (h : c.tables <+: c'.tables) :
    f.Declares c' key := by
  have hforeign : key.foreignTable < c.tables.length := Nat.lt_of_le_of_lt hk.earlier hhome
  constructor
  case columns_eq => rw [Catalog.columnNames_of_isPrefix h hhome hk.own, hf.columns_eq]
  case table_eq => rw [Catalog.tableName_of_isPrefix h hforeign, hf.table_eq]
  case foreign_eq => rw [Catalog.columnNames_of_isPrefix h hforeign hk.foreign, hf.foreign_eq]

theorem TableDecl.Declares.of_isPrefix {d : TableDecl} {c c' : Catalog} {t : TableDef} {home : TableId}
    (hd : d.Declares c t) (ht : t.WellFormed c home) (hhome : home < c.tables.length) (h : c.tables <+: c'.tables) :
    d.Declares c' t where
  name_eq := hd.name_eq
  columns_eq := hd.columns_eq
  key_eq := hd.key_eq
  indices := hd.indices
  foreignKeys := by
    have hkeys := ht.foreignKeys
    have hdecls := hd.foreignKeys
    generalize d.foreignKeys = fs, t.foreignKeys = keys at hkeys hdecls
    induction hdecls
    case nil => exact .nil
    case cons hf _ ih =>
      rw [List.forall_mem_cons] at hkeys
      exact .cons (hf.of_isPrefix hkeys.1 hhome h) (ih hkeys.2)

namespace Catalog

variable {c : Catalog} {d : TableDecl} {ds : List TableDecl}

-- The catalog after an addition that may be refused.
def attempt (c : Catalog) (d : TableDecl) : Catalog :=
  match c.add d with
  | .ok c => c
  | .error _ => c

-- The catalog that a sequence of additions makes of an empty one.
def ofDecls (ds : List TableDecl) : Catalog :=
  ds.foldl attempt .empty

-- The declarations of a sequence that are not refused.
def accepted (c : Catalog) : List TableDecl → List TableDecl
  | [] => []
  | d :: ds =>
    match c.add d with
    | .ok c => d :: accepted c ds
    | .error _ => accepted c ds

-- An addition appends one table that meets its declaration, or changes nothing.
theorem add_cases (hc : c.WellFormed) (d : TableDecl) :
    (∃ t, c.add d = .ok ⟨c.tables ++ [t]⟩ ∧ WellFormed ⟨c.tables ++ [t]⟩ ∧ d.Declares ⟨c.tables ++ [t]⟩ t) ∨
      ∃ e, c.add d = .error e := by
  cases h : d.define c
  case error e => exact .inr ⟨e, by rw [add, h]; rfl⟩
  case ok t =>
    obtain ⟨hnew, hd, ht⟩ := TableDecl.of_define h
    exact .inl ⟨t, by rw [add, h]; rfl, hc.concat ht hnew, hd⟩

theorem attempt_cases (hc : c.WellFormed) (d : TableDecl) :
    (c.attempt d).WellFormed ∧ c.tables <+: (c.attempt d).tables := by
  rcases add_cases hc d with ⟨t, h, ht, -⟩ | ⟨e, h⟩
  case inl =>
    rw [attempt, h]
    exact ⟨ht, List.prefix_append _ _⟩
  case inr =>
    rw [attempt, h]
    exact ⟨hc, List.prefix_refl _⟩

theorem foldl_attempt (hc : c.WellFormed) (ds : List TableDecl) :
    (ds.foldl attempt c).WellFormed ∧ c.tables <+: (ds.foldl attempt c).tables := by
  induction ds generalizing c
  case nil => exact ⟨hc, List.prefix_refl _⟩
  case cons d ds ih =>
    obtain ⟨hd, hgrow⟩ := attempt_cases hc d
    obtain ⟨hds, hgrows⟩ := ih hd
    exact ⟨hds, hgrow.trans hgrows⟩

theorem wellFormed_ofDecls (ds : List TableDecl) : (ofDecls ds).WellFormed :=
  (foldl_attempt .empty ds).1

-- Behind the tables of the catalog stand those that were accepted.
theorem declares_accepted (hc : c.WellFormed) (ds : List TableDecl) :
    List.Forall₂ (·.Declares (ds.foldl attempt c) ·) (c.accepted ds)
      ((ds.foldl attempt c).tables.drop c.tables.length) := by
  induction ds generalizing c
  case nil => simp [accepted]
  case cons d ds ih =>
    rw [List.foldl_cons, attempt, accepted]
    rcases add_cases hc d with ⟨t, h, ht, hd⟩ | ⟨e, h⟩
    case inr =>
      simp only [h]
      exact ih hc
    case inl =>
      simp only [h]
      obtain ⟨-, hgrow⟩ := foldl_attempt ht ds
      have hlast : table? ⟨c.tables ++ [t]⟩ c.tables.length = some t := table?_concat List.prefix_rfl
      have hwellFormed := ht.tables _ _ hlast
      have hdrop : (ds.foldl attempt ⟨c.tables ++ [t]⟩).tables.drop c.tables.length =
          t :: (ds.foldl attempt ⟨c.tables ++ [t]⟩).tables.drop (c.tables.length + 1) := by
        obtain ⟨tables, hgrow⟩ := hgrow
        simp [← hgrow]
      rw [hdrop]
      refine .cons (hd.of_isPrefix hwellFormed (lt_of_table? hlast) hgrow) ?_
      simpa using ih ht

theorem declares_ofDecls (ds : List TableDecl) :
    List.Forall₂ (·.Declares (ofDecls ds) ·) (accepted .empty ds) (ofDecls ds).tables ∧
      (ofDecls ds).WellFormed ∧ (ofDecls ds).InBounds ∧
      ∀ later, (ofDecls ds).tables <+: (ofDecls (ds ++ later)).tables := by
  refine ⟨declares_accepted .empty ds, wellFormed_ofDecls ds, (wellFormed_ofDecls ds).inBounds, fun later => ?_⟩
  rw [ofDecls, ofDecls, List.foldl_append]
  exact (foldl_attempt (wellFormed_ofDecls ds) later).2

end Catalog

end PolySql
