import PolySql.Proofs.Catalog.WellFormed
import PolySql.Proofs.Schema.TableText

namespace PolySql

open Fragment

-- May the text stand where a definition wants an expression? It is read by itself, has no part after a comma of its
-- own, and declares no key.
def Dialect.isExpression (d : Dialect) (sql : String) : Bool :=
  d.lexis.defines 0 sql

-- Every default that is given as SQL is an expression.
def TableDef.HasExpressions (t : TableDef) (d : Dialect) : Prop :=
  ∀ column ∈ t.columns, ∀ sql, column.default = some (.expression sql) → d.isExpression sql = true

namespace SchemaOp

variable {d : Dialect} {cx : Context} {t : TableDef} {column : ColumnDef} {names : List String} {w : String}
  {ts : List Token} {c : Capability}

section

variable (hd : d ∈ Dialect.builtins)

include hd

theorem defines_columnType (column : ColumnDef) : Defines d (declaresKey d column).toNat
    (words (match autoIncrement? d column with
      | some a => a.typeSql
      | none => column.type.sql d)) := by
  refine .words ?_
  rw [declaresKey, autoIncrement?]
  split
  case h_1 w _ _ => exact Dialect.defines_autoIncrement hd w
  case h_2 => exact Dialect.defines_dataType hd column.type.dataType

theorem whole_nameList (names : List String) : Whole d (nameList names) := by
  refine .parenthesised hd (.joined hd (by decide) ?_)
  rw [List.forall_mem_map]
  exact fun s _ => .name hd s 0

theorem isEntry_nameList (names : List String) : Lexeme.IsEntry ((nameList names).lexemes d) := by
  have hwhole : Whole d (joined ", " (names.map name)) := by
    refine .joined hd (by decide) ?_
    rw [List.forall_mem_map]
    exact fun s _ => .name hd s 0
  rw [nameList, lexemes_parenthesised hd]
  exact .grouped hwhole.nesting

theorem lexemes_phrase (w : String) (ts : List Token) (hw : ∀ l ∈ Lexis.vendors, l.words w = ts) :
    (words w).lexemes d = ts.map .token := by
  rw [lexemes_words, hw _ (Dialect.lexis_mem hd)]

theorem continues_key (h : names ≠ []) :
    Continues d (words ", PRIMARY KEY " ++ nameList names) [.key (names.map d.storedName)] := by
  have hread : d.ReadsEntry (.word "PRIMARY" :: .word "KEY" :: (nameList names).lexemes d)
      (.key (names.map d.storedName)) := by
    refine ⟨.cons (by decide) (.cons (by decide) (isEntry_nameList hd names)), ?_⟩
    have hlist := nameList?_lexemes hd h []
    rw [List.append_nil] at hlist
    rw [Dialect.tableItem?_key hd, hlist]
    rfl
  refine .single (.after hd (by decide) (whole_nameList hd names)) ?_ hread
  rw [lexemes_append, lexemes_phrase hd ", PRIMARY KEY "
    [⟨.symbol, [',']⟩, ⟨.word, "PRIMARY".toList⟩, ⟨.word, "KEY".toList⟩] (by decide)]
  rfl

theorem continues_foreignKey (key table : String) (own foreign : List String) :
    Continues d (words ", CONSTRAINT " ++ name key ++ words " FOREIGN KEY " ++ nameList own ++ words " REFERENCES " ++
      name table ++ words " " ++ nameList foreign) [.constraint] := by
  obtain ⟨l, hl, -, hinner⟩ := exists_nameOf? hd key
  have hreferences : Clause d (words " REFERENCES " ++ (name table ++ (words " " ++ nameList foreign))) :=
    .after hd (by decide) ((Sound.name hd table 0).append_clause (.after hd (by decide) (whole_nameList hd foreign)))
  have hcolumns : Clause d (words " FOREIGN KEY " ++ (nameList own ++
      (words " REFERENCES " ++ (name table ++ (words " " ++ nameList foreign))))) :=
    .after hd (by decide) ((whole_nameList hd own).append_clause hreferences)
  have hlexemes : (words " REFERENCES " ++ (name table ++ (words " " ++ nameList foreign))).lexemes d =
      .word "REFERENCES" :: ((name table).lexemes d ++ (nameList foreign).lexemes d) := by
    rw [lexemes_append, lexemes_append, lexemes_append,
      lexemes_phrase hd " REFERENCES " [⟨.word, "REFERENCES".toList⟩] (by decide),
      lexemes_phrase hd " " [] (by decide)]
    rfl
  have hentry : Lexeme.IsEntry ((words " REFERENCES " ++ (name table ++ (words " " ++ nameList foreign))).lexemes d) := by
    rw [hlexemes]
    exact .cons (by decide) ((isEntry_name hd table).append (isEntry_nameList hd foreign))
  simp only [List.append_assoc]
  refine .single (.after hd (by decide) ((Sound.name hd key 0).append_clause hcolumns)) ?_
    ⟨.cons (by decide) (.cons hinner (.cons (by decide) (.cons (by decide)
      ((isEntry_nameList hd own).append hentry)))), Dialect.tableItem?_foreignKey hd l _⟩
  rw [lexemes_append, lexemes_append, lexemes_append, lexemes_append, hl,
    lexemes_phrase hd ", CONSTRAINT " [⟨.symbol, [',']⟩, ⟨.word, "CONSTRAINT".toList⟩] (by decide),
    lexemes_phrase hd " FOREIGN KEY " [⟨.word, "FOREIGN".toList⟩, ⟨.word, "KEY".toList⟩] (by decide)]
  rfl

end

section

variable (hcx : cx.dialect ∈ Dialect.builtins)

include hcx

theorem attribute_renderDefault
    (hdefault : ∀ sql, column.default = some (.expression sql) → cx.dialect.isExpression sql = true) :
    Yields (Attribute cx.dialect) (renderDefault cx column) := by
  have hliteral (v : Value) : Yields (Defines cx.dialect 0) (cx.literal (some column.type) v) :=
    (Yields.trivial _).bind fun x _ => .ok (.literal hcx x)
  rw [renderDefault]
  split
  case h_1 v _ => exact (hliteral v).bind fun f hf => .ok (.default hcx hf)
  case h_2 sql h => exact .ok (.default hcx (.words (hdefault sql h)))
  case h_3 => exact .ok (.nil _)
  case h_4 => exact .ok (.nil _)

theorem readsEntry_renderColumn
    (hdefault : ∀ sql, column.default = some (.expression sql) → cx.dialect.isExpression sql = true) :
    Yields (fun f => Whole cx.dialect f ∧ cx.dialect.ReadsEntry (f.lexemes cx.dialect)
      (.column (cx.dialect.storedName column.name) (declaresKey cx.dialect column).toNat)) (renderColumn cx column) := by
  rw [renderColumn]
  refine (Yields.trivial _).bind fun _ _ => ?_
  refine (attribute_renderDefault hcx hdefault).bind fun f hf => .ok ?_
  have hnull : Attribute cx.dialect
      (if column.nullable || declaresKey cx.dialect column then [] else words " NOT NULL") := by
    split
    case isTrue => exact .nil _
    case isFalse => exact .phrase hcx (by decide)
  have hunique : Attribute cx.dialect (if column.unique then words " UNIQUE" else []) := by
    split
    case isTrue => exact .phrase hcx (by decide)
    case isFalse => exact .nil _
  have hrest := (((defines_columnType hcx column).append hf).append hnull).append hunique
  rw [List.append_assoc, List.append_assoc, List.append_assoc, List.append_assoc]
  rw [List.append_assoc, List.append_assoc] at hrest
  exact readsEntry_column hcx column.name hrest

end

-- The list in the command that creates a table.

def columnEntry (d : Dialect) (column : ColumnDef) : TableItem :=
  .column (d.storedName column.name) (declaresKey d column).toNat

def keyEntries (d : Dialect) (t : TableDef) : List TableItem :=
  if t.keyColumns.any (declaresKey d) then [] else [.key (t.keyColumns.map (d.storedName ·.name))]

def tableEntries (d : Dialect) (t : TableDef) : List TableItem :=
  t.columns.map (columnEntry d) ++ keyEntries d t ++ t.foreignKeys.map fun _ => .constraint

-- How often a table is told its key: the declarations that stand with the columns, and the one that follows them all
-- where no column of the key makes one.
def declaredKeys (d : Dialect) (t : TableDef) : List (List String) :=
  (t.columns.filter (declaresKey d)).map (fun column => [d.storedName column.name]) ++
    if t.keyColumns.any (declaresKey d) then [] else [t.keyColumns.map (d.storedName ·.name)]

theorem keys_columnEntry (d : Dialect) (columns : List ColumnDef) : (columns.map (columnEntry d)).flatMap (·.keys) =
    (columns.filter (declaresKey d)).map fun column => [d.storedName column.name] := by
  induction columns
  case nil => rfl
  case cons column columns ih =>
    rw [List.map_cons, List.flatMap_cons, ih, columnEntry]
    cases h : declaresKey d column <;> simp [TableItem.keys, h]

theorem ofEntries_tableEntries (d : Dialect) (s : String) (t : TableDef) : TableText.ofEntries s (tableEntries d t) =
    ⟨s, t.columns.map (d.storedName ·.name), declaredKeys d t⟩ := by
  rw [TableText.ofEntries, tableEntries, List.flatMap_append, List.flatMap_append, keys_columnEntry, declaredKeys,
    keyEntries]
  split <;> simp [List.filterMap_map, Function.comp_def, columnEntry, TableItem.column?, TableItem.keys]

section

variable (hcx : cx.dialect ∈ Dialect.builtins)

include hcx

theorem readsEntry_renderColumns {columns : List ColumnDef} (hdefault : ∀ column ∈ columns, ∀ sql,
    column.default = some (.expression sql) → cx.dialect.isExpression sql = true) :
    Yields (fun fs => (∀ f ∈ fs, Whole cx.dialect f) ∧
      List.Forall₂ cx.dialect.ReadsEntry (fs.map (·.lexemes cx.dialect)) (columns.map (columnEntry cx.dialect)))
      (columns.mapM (renderColumn cx)) := by
  intro fs hfs
  rw [Result.mapM_eq_ok] at hfs
  induction hfs
  case nil => exact ⟨by simp, .nil⟩
  case cons hf _ ih =>
    rw [List.forall_mem_cons] at hdefault
    obtain ⟨hwhole, hread⟩ := readsEntry_renderColumn hcx hdefault.1 _ hf
    obtain ⟨hwholes, hreads⟩ := ih hdefault.2
    exact ⟨List.forall_mem_cons.mpr ⟨hwhole, hwholes⟩, .cons hread hreads⟩

theorem continues_renderKey (hkey : t.keyColumns ≠ []) :
    Continues cx.dialect (renderKey cx t) (keyEntries cx.dialect t) := by
  rw [renderKey, keyEntries]
  split
  case isTrue => exact .nil _
  case isFalse =>
    have hnames : t.keyColumns.map (·.name) ≠ [] := by simpa using hkey
    have := continues_key hcx hnames
    rwa [List.map_map] at this

theorem continues_renderForeignKeys (keys : List ForeignKey) : Yields
    (fun fs => Continues cx.dialect fs.flatten (keys.map fun _ => .constraint)) (keys.mapM (renderForeignKey cx)) := by
  have hkey (key : ForeignKey) : Yields (Continues cx.dialect · [.constraint]) (renderForeignKey cx key) :=
    (Yields.trivial _).bind fun _ _ => .ok (continues_foreignKey hcx _ _ _ _)
  intro fs hfs
  rw [Result.mapM_eq_ok] at hfs
  induction hfs
  case nil => exact .nil _
  case cons hf _ ih => exact (hkey _ _ hf).append ih

theorem head_renderGuard (wanted : Bool) (operation : String) : Yields
    (fun f => Head cx.dialect f ∧ (f.lexemes cx.dialect = [] ∨
      f.lexemes cx.dialect = ["IF", "NOT", "EXISTS"].map .word))
    (renderGuard cx wanted c operation "IF NOT EXISTS ") := by
  rw [renderGuard]
  split
  case isTrue =>
    refine (Yields.trivial _).bind fun _ _ => .ok ⟨.words hcx (by decide), .inr ?_⟩
    rw [lexemes_phrase hcx "IF NOT EXISTS " (["IF", "NOT", "EXISTS"].map fun w => ⟨.word, w.toList⟩) (by decide)]
    rfl
  case isFalse => exact .ok ⟨.nil _, .inl rfl⟩

end

-- The command that creates a table is read as the table's columns and the declarations of its key.
theorem tableText?_renderCreateTable (hcx : cx.dialect ∈ Dialect.builtins) (hcolumns : t.columns ≠ [])
    (hkey : t.keyColumns ≠ []) (hdefault : t.HasExpressions cx.dialect) (ifNotExists : Bool) :
    Yields (fun f => cx.dialect.tableText? ⟨f.text cx.dialect 0, f.params⟩ =
      some ⟨cx.dialect.storedName t.name, t.columns.map (cx.dialect.storedName ·.name), declaredKeys cx.dialect t⟩)
      (renderCreateTable cx t ifNotExists) := by
  rw [renderCreateTable]
  refine (Yields.trivial _).bind fun _ _ => ?_
  refine (head_renderGuard hcx ifNotExists _).bind fun guard hguard => ?_
  refine (readsEntry_renderColumns hcx hdefault).bind fun fs hfs => ?_
  refine (continues_renderForeignKeys hcx t.foreignKeys).bind fun gs hgs => .ok ?_
  obtain ⟨hwhole, hread⟩ := hfs
  have hne : fs ≠ [] := by
    rintro rfl
    rw [List.map_nil, List.forall₂_nil_left_iff] at hread
    simp [hcolumns] at hread
  have hlist := ((Lists.joined hcx hne hwhole hread).append (continues_renderKey hcx hkey)).append hgs
  rw [hlist.tableText? hcx hguard.1 hguard.2 t.name rfl]
  exact congrArg some (ofEntries_tableEntries _ _ t)

section

variable {catalog : Catalog} {home : TableId}

theorem mem_of_mem_keyColumns (h : column ∈ t.keyColumns) : column ∈ t.columns := by
  obtain ⟨i, -, hi⟩ := List.mem_filterMap.mp h
  exact List.mem_of_getElem? hi

theorem keyColumns_ne_nil (ht : t.WellFormed catalog home) : t.keyColumns ≠ [] := by
  obtain ⟨i, hi⟩ := List.exists_mem_of_ne_nil _ ht.key_ne
  obtain ⟨column, hcolumn, -⟩ := ht.filled i hi
  exact List.ne_nil_of_mem (List.mem_filterMap.mpr ⟨i, hi, hcolumn⟩)

end

theorem tableText?_compile {id : TableId} (hcx : cx.dialect ∈ Dialect.builtins) (ht : cx.catalog.table? id = some t)
    (htable : t.WellFormed cx.catalog id) (hdefault : t.HasExpressions cx.dialect) {ifNotExists : Bool}
    (h : (Statement.schema (.createTable id ifNotExists)).compile cx = .ok command) : cx.dialect.tableText? command =
      some ⟨cx.dialect.storedName t.name, t.columns.map (cx.dialect.storedName ·.name), declaredKeys cx.dialect t⟩ := by
  obtain ⟨f, hf, hcommand⟩ := Result.bind_eq_ok.mp h
  obtain ⟨rfl, -⟩ := Context.of_command hcommand
  rw [render, ht] at hf
  exact tableText?_renderCreateTable hcx htable.columns_ne (keyColumns_ne_nil htable) hdefault ifNotExists f hf

end SchemaOp

end PolySql
