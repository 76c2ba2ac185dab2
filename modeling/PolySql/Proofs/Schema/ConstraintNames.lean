import Mathlib.Data.List.Nodup
import PolySql.Proofs.Schema.StoredNames

namespace PolySql

open Fragment

-- The names that the text which creates a table gives to constraints.

namespace Dialect

variable (d : Dialect)

def constraintName? : List Lexeme → Option String
  | l :: name :: _ => if (d.nameOf? l).isNone && l.isWord "CONSTRAINT" then d.nameOf? name else none
  | _ => none

def constraintNames? (command : Command) : Option (List String) := do
  let all ← d.read 0 command.sql command.params
  let ls ← Lexeme.after? ["CREATE", "TABLE"] all
  match (Lexeme.after? ["IF", "NOT", "EXISTS"] ls).getD ls with
  | _ :: x :: r =>
    let (es, _) ← Lexeme.entries 0 [] r
    if x.isSymbol '(' then return es.filterMap d.constraintName? else none
  | _ => none

variable {d : Dialect} {ls : List Lexeme}

-- What defines a column names no constraint.
theorem constraintName?_of_column (h : d.tableItem? ls = some (.column s n)) : d.constraintName? ls = none := by
  have hconstraint (ls : List Lexeme) : d.constraint? ls ≠ some (.column s n) := by
    rw [constraint?]
    split
    case h_1 => simp [Option.map_eq_some_iff]
    case h_2 => split_ifs <;> simp
  cases ls
  case nil => rfl
  case cons l r =>
    cases r
    case nil => rfl
    case cons name r =>
      rw [tableItem?] at h
      rw [constraintName?]
      cases hl : d.nameOf? l
      case some => simp
      case none =>
        rw [hl] at h
        dsimp only at h
        split at h
        case h_1 => exact absurd h (hconstraint _)
        case h_2 => exact absurd h (hconstraint _)

theorem map_toLower_of_not_needsQuotes {name : String} (hfolds : d.identifierCase ≠ .preserve)
    (hname : name.toList.any Char.isLower = true) (h : d.needsQuotes name = false) :
    name.toList.map Char.toLower = name.toList := by
  have hplain := all_of_isPlain (isPlain_of_not_needsQuotes h)
  have hupper : name.toList.any Char.isUpper = false := by
    simpa [needsQuotes, isMixedCase, hname, hfolds, isPlain_of_not_needsQuotes h, isKeyword_of_not_needsQuotes h] using h
  rw [List.any_eq_false] at hupper
  refine (List.map_congr_left fun c hc => ?_).trans (List.map_id _)
  exact of_isWordChar (p := fun c => ¬c.isUpper = true → c.toLower = c) (by decide) (hplain c hc) (hupper c hc)

-- Names that both have small letters stand without quotes only if they have no capitals, so that folding tells them
-- apart.
theorem storedName_inj_of_isLower {a b : String} (ha : a.toList.any Char.isLower = true)
    (hb : b.toList.any Char.isLower = true) : d.storedName a = d.storedName b ↔ a = b := by
  refine ⟨fun h => ?_, fun h => h ▸ rfl⟩
  rcases storedName_eq_iff.mp h with rfl | ⟨hfolds, ⟨hqa, hqb⟩, hsame⟩
  case inl => rfl
  case inr =>
    have hsame : a.toList.map Char.toUpper = b.toList.map Char.toUpper := String.ofList_injective hsame
    rw [← String.toList_inj, ← map_toLower_of_not_needsQuotes hfolds ha hqa,
      ← map_toLower_toUpper (isPlain_of_not_needsQuotes hqa), hsame, map_toLower_toUpper (isPlain_of_not_needsQuotes hqb),
      map_toLower_of_not_needsQuotes hfolds hb hqb]

end Dialect

-- More of the list in such a text, which gives these names to constraints.
def Fragment.Constrains (d : Dialect) (f : Fragment) (names : List String) : Prop :=
  ∃ es : List (List Lexeme), f.lexemes d = es.flatMap (.symbol ',' :: ·) ∧ (∀ e ∈ es, Lexeme.IsEntry e) ∧
    es.filterMap d.constraintName? = names

namespace Fragment.Constrains

variable {d : Dialect} {f g : Fragment} {names names' : List String}

theorem nil (d : Dialect) : Constrains d [] [] :=
  ⟨[], rfl, nofun, rfl⟩

theorem append (hf : Constrains d f names) (hg : Constrains d g names') : Constrains d (f ++ g) (names ++ names') := by
  obtain ⟨es, hes, hentries, rfl⟩ := hf
  obtain ⟨es', hes', hentries', rfl⟩ := hg
  exact ⟨es ++ es', by simp [hes, hes'], List.forall_mem_append.mpr ⟨hentries, hentries'⟩, List.filterMap_append⟩

theorem of_continues {ls : List Lexeme} {entry : TableItem} (h : Continues d f [entry])
    (hls : f.lexemes d = .symbol ',' :: ls) (hname : (d.constraintName? ls).toList = names) : Constrains d f names := by
  obtain ⟨es, hes, hread⟩ := h.exists_lexemes
  have hentries := Dialect.ReadsEntry.isEntry_of_mem hread
  obtain ⟨e, he⟩ := List.length_eq_one_iff.mp hread.length_eq
  subst he
  obtain rfl : e = ls := by simpa [hls] using hes.symm
  exact ⟨[e], hes, hentries, by cases h : d.constraintName? e <;> simp [← hname, h]⟩

end Fragment.Constrains

-- Behind columns only what follows them names constraints.
theorem Fragment.Lists.constrains {d : Dialect} {f g : Fragment} {entries : List TableItem} {names : List String}
    (hf : Lists d f entries) (hcolumns : ∀ entry ∈ entries, ∃ s n, entry = .column s n) (hg : Constrains d g names) :
    ∃ e es, (f ++ g).lexemes d = e ++ es.flatMap (.symbol ',' :: ·) ∧ (∀ e' ∈ e :: es, Lexeme.IsEntry e') ∧
      (e :: es).filterMap d.constraintName? = names := by
  obtain ⟨e, es, hes, hread⟩ := hf.exists_lexemes
  obtain ⟨es', hes', hentries', rfl⟩ := hg
  have hnone : (e :: es).filterMap d.constraintName? = [] := by
    rw [List.filterMap_eq_nil_iff]
    intro e' he'
    obtain ⟨entry, hentry, hread⟩ := exists_of_mem_forall₂ hread he'
    obtain ⟨s, n, rfl⟩ := hcolumns entry hentry
    exact Dialect.constraintName?_of_column hread.read
  refine ⟨e, es ++ es', by simp [hes, hes'], ?_, ?_⟩
  case refine_1 =>
    rw [← List.cons_append]
    exact List.forall_mem_append.mpr ⟨Dialect.ReadsEntry.isEntry_of_mem hread, hentries'⟩
  case refine_2 => rw [← List.cons_append, List.filterMap_append, hnone, List.nil_append]

namespace SchemaOp

variable {d : Dialect} {cx : Context} {t : TableDef}

section

variable (hd : d ∈ Dialect.builtins)

include hd

theorem constrains_key {names : List String} (h : names ≠ []) :
    Constrains d (words ", PRIMARY KEY " ++ nameList names) [] := by
  have hlexemes : (words ", PRIMARY KEY " ++ nameList names).lexemes d =
      .symbol ',' :: .word "PRIMARY" :: .word "KEY" :: (nameList names).lexemes d := by
    rw [lexemes_append, lexemes_phrase hd ", PRIMARY KEY "
      [⟨.symbol, [',']⟩, ⟨.word, "PRIMARY".toList⟩, ⟨.word, "KEY".toList⟩] (by decide)]
    rfl
  have hother : Lexeme.isWord "CONSTRAINT" (.word "PRIMARY") = false := by decide
  refine .of_continues (continues_key hd h) hlexemes ?_
  simp [Dialect.constraintName?, hother]

theorem constrains_foreignKey (key table : String) (own foreign : List String) :
    Constrains d (words ", CONSTRAINT " ++ name key ++ words " FOREIGN KEY " ++ nameList own ++ words " REFERENCES " ++
      name table ++ words " " ++ nameList foreign) [d.storedName key] := by
  obtain ⟨l, hl, hstored, -⟩ := exists_nameOf? hd key
  have hword : ∀ d ∈ Dialect.builtins, d.nameOf? (.word "CONSTRAINT") = none := by decide
  have hself : Lexeme.isWord "CONSTRAINT" (.word "CONSTRAINT") = true := by decide
  have hentry := continues_foreignKey hd key table own foreign
  simp only [List.append_assoc] at hentry ⊢
  generalize words " FOREIGN KEY " ++ _ = rest at hentry ⊢
  have hlexemes : (words ", CONSTRAINT " ++ (name key ++ rest)).lexemes d =
      .symbol ',' :: .word "CONSTRAINT" :: l :: rest.lexemes d := by
    rw [lexemes_append, lexemes_append, hl,
      lexemes_phrase hd ", CONSTRAINT " [⟨.symbol, [',']⟩, ⟨.word, "CONSTRAINT".toList⟩] (by decide)]
    rfl
  refine .of_continues hentry hlexemes ?_
  simp [Dialect.constraintName?, hword d hd, hself, hstored]

end

section

variable (hcx : cx.dialect ∈ Dialect.builtins)

include hcx

theorem constrains_renderKey (hkey : t.keyColumns ≠ []) : Constrains cx.dialect (renderKey cx t) [] := by
  rw [renderKey]
  split
  case isTrue => exact .nil _
  case isFalse => exact constrains_key hcx (by simpa using hkey)

theorem constrains_renderForeignKeys (keys : List ForeignKey) : Yields
    (fun fs => Constrains cx.dialect fs.flatten (keys.map (cx.dialect.storedName ·.name)))
    (keys.mapM (renderForeignKey cx)) := by
  have hkey (key : ForeignKey) : Yields (Constrains cx.dialect · [cx.dialect.storedName key.name])
      (renderForeignKey cx key) :=
    (Yields.trivial _).bind fun _ _ => .ok (constrains_foreignKey hcx _ _ _ _)
  intro fs hfs
  rw [Result.mapM_eq_ok] at hfs
  induction hfs
  case nil => exact .nil _
  case cons hf _ ih => exact (hkey _ _ hf).append ih

end

-- The command that creates a table names a constraint for each foreign key, and no other.
theorem constraintNames?_renderCreateTable (hcx : cx.dialect ∈ Dialect.builtins) (hcolumns : t.columns ≠ [])
    (hkey : t.keyColumns ≠ []) (hdefault : t.HasExpressions cx.dialect) (ifNotExists : Bool) :
    Yields (fun f => cx.dialect.constraintNames? ⟨f.text cx.dialect 0, f.params⟩ =
      some (t.foreignKeys.map (cx.dialect.storedName ·.name))) (renderCreateTable cx t ifNotExists) := by
  rw [renderCreateTable]
  refine (Yields.trivial _).bind fun _ _ => ?_
  refine (head_renderGuard hcx ifNotExists _).bind fun guard hguard => ?_
  refine (readsEntry_renderColumns hcx hdefault).bind fun fs hfs => ?_
  have hkeys : Yields (fun gs => Continues cx.dialect gs.flatten (t.foreignKeys.map fun _ => .constraint) ∧
      Constrains cx.dialect gs.flatten (t.foreignKeys.map (cx.dialect.storedName ·.name)))
      (t.foreignKeys.mapM (renderForeignKey cx)) :=
    fun gs h => ⟨continues_renderForeignKeys hcx _ gs h, constrains_renderForeignKeys hcx _ gs h⟩
  refine hkeys.bind fun gs hgs => .ok ?_
  obtain ⟨hwhole, hread⟩ := hfs
  have hne : fs ≠ [] := by
    rintro rfl
    rw [List.map_nil, List.forall₂_nil_left_iff] at hread
    simp [hcolumns] at hread
  have hcolumn : ∀ entry ∈ t.columns.map (columnEntry cx.dialect), ∃ s n, entry = .column s n :=
    List.forall_mem_map.mpr fun column _ => ⟨_, _, rfl⟩
  have hlist := Lists.joined hcx hne hwhole hread
  have hall := (hlist.append (continues_renderKey hcx hkey)).append hgs.1
  obtain ⟨e, es, hes, hentries, hnames⟩ := hlist.constrains hcolumn ((constrains_renderKey hcx hkey).append hgs.2)
  obtain ⟨all, ls, l, hread, hls, hguarded, -⟩ :=
    exists_read_createTable hcx hall.whole hguard.1 hguard.2 t.name rfl
  rw [List.forall_mem_cons] at hentries
  have hclosed := Lexeme.entries_separated hentries.1 hentries.2 []
  have hopening : (Lexeme.symbol '(').isSymbol '(' = true := by decide
  rw [List.append_assoc, hes, List.append_assoc] at hguarded
  rw [Dialect.constraintNames?]
  simp only [hread, hls, hguarded, hclosed, hopening, Option.bind_eq_bind, Option.bind_some, hnames]
  rfl

theorem constraintNames?_compile {id : TableId} (hcx : cx.dialect ∈ Dialect.builtins)
    (ht : cx.catalog.table? id = some t) (htable : t.WellFormed cx.catalog id) (hdefault : t.HasExpressions cx.dialect)
    {ifNotExists : Bool} (h : (Statement.schema (.createTable id ifNotExists)).compile cx = .ok command) :
    cx.dialect.constraintNames? command = some (t.foreignKeys.map (cx.dialect.storedName ·.name)) := by
  obtain ⟨f, hf, hcommand⟩ := Result.bind_eq_ok.mp h
  obtain ⟨rfl, -⟩ := Context.of_command hcommand
  rw [render, ht] at hf
  exact constraintNames?_renderCreateTable hcx htable.columns_ne (keyColumns_ne_nil htable) hdefault ifNotExists f hf

end SchemaOp

namespace ForeignKey

def columnNames (key : ForeignKey) (c : Catalog) : List String :=
  key.columns.map c.columnName

-- The names of the columns, cut at their underscores.
def words (key : ForeignKey) (c : Catalog) : List (List Char) :=
  (key.columnNames c).flatMap fun name => name.toList.splitOn '_'

-- A key of the table is named for the table and its columns.
def Named (key : ForeignKey) (c : Catalog) (home : TableId) : Prop :=
  key.name = c.tableName home ++ "_" ++ String.intercalate "_" (key.columnNames c) ++ "_fkey"

end ForeignKey

section

variable {ls ls' : List (List Char)}

theorem splitOn_intercalate_flatMap (h : ls ≠ []) : (['_'].intercalate ls).splitOn '_' = ls.flatMap (·.splitOn '_') := by
  induction ls
  case nil => exact absurd rfl h
  case cons l ls ih =>
    cases ls
    case nil => simp
    case cons l' ls =>
      have hcut : (l ++ '_' :: ['_'].intercalate (l' :: ls)).splitOn '_' =
          l.splitOn '_' ++ (['_'].intercalate (l' :: ls)).splitOn '_' :=
        List.splitOnP_append_cons _ _ (beq_self_eq_true '_')
      rw [List.intercalate_cons_cons, List.append_assoc, List.singleton_append, hcut, ih (List.cons_ne_nil _ _)]
      rfl

-- Texts joined by underscores are the same text exactly if they are the same words.
theorem intercalate_inj (h : ls ≠ []) (h' : ls' ≠ []) : ['_'].intercalate ls = ['_'].intercalate ls' ↔
    ls.flatMap (·.splitOn '_') = ls'.flatMap (·.splitOn '_') := by
  rw [← splitOn_intercalate_flatMap h, ← splitOn_intercalate_flatMap h']
  constructor
  case mp => exact congrArg _
  case mpr =>
    intro heq
    have hjoined := congrArg ['_'].intercalate heq
    rwa [List.intercalate_splitOn, List.intercalate_splitOn] at hjoined

end

namespace ForeignKey

variable {key key' : ForeignKey} {c c' : Catalog} {home : TableId}

theorem Named.name_eq_iff (hkey : key.Named c home) (hkey' : key'.Named c home) (hne : key.columns ≠ [])
    (hne' : key'.columns ≠ []) : key.name = key'.name ↔ key.words c = key'.words c := by
  have hjoined : key.name = key'.name ↔ ['_'].intercalate ((key.columnNames c).map String.toList) =
      ['_'].intercalate ((key'.columnNames c).map String.toList) := by
    rw [hkey, hkey', ← String.toList_inj]
    simp [String.toList_intercalate]
  rw [hjoined, intercalate_inj (by simpa [columnNames] using hne) (by simpa [columnNames] using hne')]
  simp [words, List.flatMap_map]

theorem words_of_whole (h : ∀ name ∈ key.columnNames c, '_' ∉ name.toList) :
    key.words c = (key.columnNames c).map String.toList := by
  rw [words]
  generalize key.columnNames c = names at h
  induction names
  case nil => rfl
  case cons name names ih =>
    rw [List.forall_mem_cons] at h
    rw [List.flatMap_cons, ih h.2, List.splitOn_eq_singleton h.1, List.map_cons, List.singleton_append]

-- Names without underscores are words, and of a single name the words are its own.
theorem columnNames_eq_of_words (h : (∀ name ∈ key.columnNames c ++ key'.columnNames c, '_' ∉ name.toList) ∨
    key.columns.length = 1 ∧ key'.columns.length = 1) (hwords : key.words c = key'.words c) :
    key.columnNames c = key'.columnNames c := by
  rcases h with h | ⟨hone, hone'⟩
  case inl =>
    obtain ⟨hnames, hnames'⟩ := List.forall_mem_append.mp h
    rw [words_of_whole hnames, words_of_whole hnames'] at hwords
    exact List.map_injective_iff.mpr (fun _ _ => String.toList_inj.mp) hwords
  case inr =>
    obtain ⟨id, hid⟩ := List.length_eq_one_iff.mp hone
    obtain ⟨id', hid'⟩ := List.length_eq_one_iff.mp hone'
    simp only [words, columnNames, hid, hid', List.map_singleton, List.flatMap_singleton] at hwords ⊢
    have hname := congrArg ['_'].intercalate hwords
    rw [List.intercalate_splitOn, List.intercalate_splitOn] at hname
    rw [String.toList_inj.mp hname]

theorem Named.isLower (hkey : key.Named c home) : key.name.toList.any Char.isLower = true := by
  rw [hkey, String.toList_append, List.any_append, Bool.or_eq_true]
  exact .inr (by decide)

theorem Named.of_isPrefix (hkey : key.Named c home) (hpaired : key.Paired c home) (hhome : home < c.tables.length)
    (h : c.tables <+: c'.tables) : key.Named c' home := by
  rw [Named, columnNames, Catalog.columnNames_of_isPrefix h hhome hpaired.own, Catalog.tableName_of_isPrefix h hhome]
  exact hkey

end ForeignKey

namespace TableDecl

variable {d : TableDecl} {c : Catalog} {t : TableDef}

theorem name_of_foreignKey {f : ForeignKeyDecl} {key : ForeignKey} (h : d.foreignKey c f = .ok key) :
    key.name = d.foreignKeyName f := by
  obtain ⟨columns, -, h⟩ := Result.bind_eq_ok.mp h
  obtain ⟨table, -, h⟩ := Result.bind_eq_ok.mp h
  obtain ⟨foreign, -, h⟩ := Result.bind_eq_ok.mp h
  obtain ⟨⟨⟩, -, ⟨⟩⟩ := Result.bind_eq_ok.mp h
  rfl

theorem named_of_define (h : d.define c = .ok t) :
    ∀ key ∈ t.foreignKeys, key.Named ⟨c.tables ++ [t]⟩ c.tables.length := by
  obtain ⟨primaryKey, indices, foreignKeys, -, -, -, -, -, -, -, hforeign, rfl⟩ := define_eq_ok h
  have hgrow : c.tables ++ [⟨d.name, d.columns, primaryKey, indices, foreignKeys⟩] <+:
      c.tables ++ [⟨d.name, d.columns, primaryKey, indices, foreignKeys⟩] := List.prefix_rfl
  refine Result.forall_of_mapM hforeign fun f _ key hkey => ?_
  have hdeclares := (of_foreignKey hgrow rfl rfl hkey).1
  rw [ForeignKey.Named, ForeignKey.columnNames, hdeclares.columns_eq, name_of_foreignKey hkey, foreignKeyName,
    Catalog.tableName_of_table? (Catalog.table?_concat hgrow)]

end TableDecl

namespace Catalog

variable {c : Catalog} {d : TableDecl} {ds : List TableDecl} {t : TableDef} {home : TableId}

def NamesKeys (c : Catalog) : Prop :=
  ∀ home t, c.table? home = some t → ∀ key ∈ t.foreignKeys, key.Named c home

theorem namesKeys_attempt (hc : c.WellFormed) (h : c.NamesKeys) (d : TableDecl) : (c.attempt d).NamesKeys := by
  rw [attempt, add]
  cases hd : d.define c
  case error => exact h
  case ok t =>
    intro home t' ht' key hkey
    change table? ⟨c.tables ++ [t]⟩ home = some t' at ht'
    change key.Named ⟨c.tables ++ [t]⟩ home
    have hgrow : c.tables <+: c.tables ++ [t] := List.prefix_append _ _
    have hlt := lt_of_table? ht'
    rw [List.length_append, List.length_singleton] at hlt
    rcases Nat.lt_or_eq_of_le (Nat.le_of_lt_succ hlt) with hold | rfl
    case inl =>
      rw [table?_of_isPrefix (c := c) hgrow hold] at ht'
      exact (h home t' ht' key hkey).of_isPrefix ((hc.tables home t' ht').foreignKeys key hkey) hold hgrow
    case inr =>
      rw [table?_concat List.prefix_rfl] at ht'
      cases ht'
      exact TableDecl.named_of_define hd key hkey

theorem namesKeys_foldl (hc : c.WellFormed) (h : c.NamesKeys) (ds : List TableDecl) :
    (ds.foldl attempt c).NamesKeys := by
  induction ds generalizing c
  case nil => exact h
  case cons d ds ih => exact ih (attempt_cases hc d).1 (namesKeys_attempt hc h d)

theorem namesKeys_ofDecls (ds : List TableDecl) : (ofDecls ds).NamesKeys :=
  namesKeys_foldl .empty nofun ds

theorem columnName_inj (hc : c.WellFormed) {id id' : ColumnId} (hid : id ∈ c.columnIds home)
    (hid' : id' ∈ c.columnIds home) (h : c.columnName id = c.columnName id') : id = id' := by
  obtain ⟨htable, hlt⟩ := mem_columnIds.mp hid
  obtain ⟨htable', hlt'⟩ := mem_columnIds.mp hid'
  have hnodup : ((c.columns home).map (·.name)).Nodup := by
    cases ht : c.table? home
    case none => simp [columns, ht]
    case some t =>
      rw [columns_of_table? ht]
      exact (hc.tables home t ht).nodup_names
  have hname (id : ColumnId) (htable : id.table = home) (hlt : id.column < ((c.columns home).map (·.name)).length) :
      ((c.columns home).map (·.name))[id.column] = c.columnName id := by
    rw [List.length_map] at hlt
    simp [columnName, column?, htable, hlt]
  rw [← List.length_map (·.name)] at hlt hlt'
  have hcolumn : id.column = id'.column :=
    hnodup.getElem_inj_iff.mp ((hname id htable hlt).trans (h ▸ (hname id' htable' hlt').symm))
  cases id
  cases id'
  simp_all

theorem exists_mem_columns (ht : c.table? home = some t) {id : ColumnId} (hid : id ∈ c.columnIds home) :
    ∃ column ∈ t.columns, column.name = c.columnName id := by
  obtain ⟨htable, hlt⟩ := mem_columnIds.mp hid
  rw [columns_of_table? ht] at hlt
  refine ⟨t.columns[id.column], List.getElem_mem hlt, ?_⟩
  simp [columnName, column?, htable, columns_of_table? ht, hlt]

theorem columnNames_inj (hc : c.WellFormed) {ids ids' : List ColumnId} (hids : ∀ id ∈ ids, id ∈ c.columnIds home)
    (hids' : ∀ id ∈ ids', id ∈ c.columnIds home) (h : ids.map c.columnName = ids'.map c.columnName) : ids = ids' := by
  induction ids generalizing ids'
  case nil => exact (List.map_eq_nil_iff.mp h.symm).symm
  case cons id ids ih =>
    cases ids'
    case nil => nomatch h
    case cons id' ids' =>
      rw [List.forall_mem_cons] at hids hids'
      obtain ⟨hname, hnames⟩ := List.cons.inj h
      rw [columnName_inj hc hids.1 hids'.1 hname, ih hids.2 hids'.2 hnames]

-- Two foreign keys of a table have one name exactly if the names of their columns, cut at the underscores, are the
-- same words; so columns without underscores tell them apart, and so does a single column, but no others need to. The
-- command that creates the table declares a constraint twice exactly if two of its keys are such a pair.
theorem foreignKeyNames_apart (ds : List TableDecl) {home : TableId} {t : TableDef}
    (ht : (ofDecls ds).table? home = some t) :
    (∀ key ∈ t.foreignKeys, key.name =
      t.name ++ "_" ++ String.intercalate "_" (key.columns.map (ofDecls ds).columnName) ++ "_fkey") ∧
    (∀ key ∈ t.foreignKeys, ∀ key' ∈ t.foreignKeys,
      (key.name = key'.name ↔ key.words (ofDecls ds) = key'.words (ofDecls ds)) ∧
      ((∀ column ∈ t.columns, '_' ∉ column.name.toList) ∨ key.columns.length = 1 ∧ key'.columns.length = 1 →
        (key.name = key'.name ↔ key.columns = key'.columns))) ∧
    ∀ cx : Context, cx.dialect ∈ Dialect.builtins → cx.catalog = ofDecls ds → t.HasExpressions cx.dialect →
      ∀ ifNotExists command, (Statement.schema (.createTable home ifNotExists)).compile cx = .ok command →
      ∃ names, cx.dialect.constraintNames? command = some names ∧
        (names.Nodup ↔ t.foreignKeys.Pairwise fun a b => a.words (ofDecls ds) ≠ b.words (ofDecls ds)) := by
  have hc := wellFormed_ofDecls ds
  have hnamed := namesKeys_ofDecls ds home t ht
  have hpaired := (hc.tables home t ht).foreignKeys
  have hwords : ∀ key ∈ t.foreignKeys, ∀ key' ∈ t.foreignKeys,
      (key.name = key'.name ↔ key.words (ofDecls ds) = key'.words (ofDecls ds)) := fun key hkey key' hkey' =>
    (hnamed key hkey).name_eq_iff (hnamed key' hkey') (hpaired key hkey).columns_ne (hpaired key' hkey').columns_ne
  refine ⟨?_, fun key hkey key' hkey' => ⟨hwords key hkey key' hkey', fun h => ?_⟩, ?_⟩
  case refine_1 =>
    intro key hkey
    rw [← tableName_of_table? ht]
    exact hnamed key hkey
  case refine_2 =>
    rw [hwords key hkey key' hkey']
    have hwhole (columns : ∀ column ∈ t.columns, '_' ∉ column.name.toList) : ∀ key ∈ t.foreignKeys,
        ∀ name ∈ key.columnNames (ofDecls ds), '_' ∉ name.toList := by
      intro key hkey name hname
      obtain ⟨id, hid, rfl⟩ := List.mem_map.mp hname
      obtain ⟨column, hcolumn, heq⟩ := exists_mem_columns ht ((hpaired key hkey).own id hid)
      exact heq ▸ columns column hcolumn
    refine ⟨fun heq => ?_, fun heq => by rw [ForeignKey.words, ForeignKey.words, ForeignKey.columnNames,
      ForeignKey.columnNames, heq]⟩
    have hnames := ForeignKey.columnNames_eq_of_words
      (h.imp (fun hcolumns => List.forall_mem_append.mpr ⟨hwhole hcolumns key hkey, hwhole hcolumns key' hkey'⟩) id) heq
    exact columnNames_inj hc (hpaired key hkey).own (hpaired key' hkey').own hnames
  case refine_3 =>
    intro cx hcx hcatalog hdefault ifNotExists command hcommand
    rw [← hcatalog] at ht hc
    refine ⟨_, SchemaOp.constraintNames?_compile hcx ht (hc.tables home t ht) hdefault hcommand, ?_⟩
    rw [List.Nodup, List.pairwise_map]
    refine List.Pairwise.iff_of_mem fun {key key'} hkey hkey' => not_congr ?_
    rw [Dialect.storedName_inj_of_isLower (hnamed key hkey).isLower (hnamed key' hkey').isLower,
      hwords key hkey key' hkey']

theorem foreignKeyNames_apart_of_two_rooms :
    let column (name : String) : ColumnDef := ⟨name, .int .bits32, false, false, false, none⟩
    let rooms : TableDecl := ⟨"rooms", [column "id"], ["id"], [], []⟩
    let moves : TableDecl := ⟨"moves", [column "guest", column "old_room", column "new_room"], ["guest"], [],
      [⟨["old_room"], "rooms", ["id"]⟩, ⟨["new_room"], "rooms", ["id"]⟩]⟩
    let cx : Context := .new (ofDecls [rooms, moves]) .oracle none
    ∃ t command names, cx.catalog.table? 1 = some t ∧ t.HasExpressions cx.dialect ∧
      t.foreignKeys.map (·.name) = ["moves_old_room_fkey", "moves_new_room_fkey"] ∧
      (Statement.schema (.createTable 1 false)).compile cx = .ok command ∧
      cx.dialect.constraintNames? command = some names ∧ names.Nodup := by
  intro column rooms moves cx
  let t : TableDef := ⟨"moves", moves.columns, [0], [],
    [⟨"moves_old_room_fkey", [⟨1, 1⟩], 0, [⟨0, 0⟩]⟩, ⟨"moves_new_room_fkey", [⟨1, 2⟩], 0, [⟨0, 0⟩]⟩]⟩
  have hmember : cx.dialect ∈ Dialect.builtins := by simp [cx, Context.new, Dialect.builtins]
  have ht : (ofDecls [rooms, moves]).table? 1 = some t := rfl
  have hdefault : t.HasExpressions cx.dialect := by simp [TableDef.HasExpressions, t, moves, column]
  have hcompiles : ((Statement.schema (.createTable 1 false)).compile cx).toOption.isSome = true := by decide +kernel
  obtain ⟨command, hcommand⟩ := Option.isSome_iff_exists.mp hcompiles
  rw [Result.toOption_eq_some] at hcommand
  obtain ⟨-, -, hcommands⟩ := foreignKeyNames_apart [rooms, moves] ht
  obtain ⟨names, hnames, hnodup⟩ := hcommands cx hmember rfl hdefault false command hcommand
  refine ⟨t, command, names, ht, hdefault, rfl, hcommand, hnames, hnodup.mpr ?_⟩
  decide +kernel

-- The columns of two keys are joined to one name, and the command declares it twice.
theorem foreignKeyNames_meet :
    let column (name : String) : ColumnDef := ⟨name, .int .bits32, false, false, false, none⟩
    let rooms : TableDecl := ⟨"rooms", [column "guest", column "id"], ["guest", "id"], [], []⟩
    let bookings : TableDecl :=
      ⟨"bookings", [column "guest", column "room_id", column "guest_room", column "id"], ["id"], [],
        [⟨["guest", "room_id"], "rooms", ["guest", "id"]⟩, ⟨["guest_room", "id"], "rooms", ["guest", "id"]⟩]⟩
    let cx : Context := .new (ofDecls [rooms, bookings]) .postgres none
    ∃ t command, cx.catalog.table? 1 = some t ∧
      (t.foreignKeys.map fun key => (key.name, key.columnNames cx.catalog)) =
        [("bookings_guest_room_id_fkey", ["guest", "room_id"]), ("bookings_guest_room_id_fkey", ["guest_room", "id"])] ∧
      (Statement.schema (.createTable 1 false)).compile cx = .ok command ∧
      cx.dialect.constraintNames? command = some ["bookings_guest_room_id_fkey", "bookings_guest_room_id_fkey"] := by
  intro column rooms bookings cx
  let t : TableDef := ⟨"bookings", bookings.columns, [3], [],
    [⟨"bookings_guest_room_id_fkey", [⟨1, 0⟩, ⟨1, 1⟩], 0, [⟨0, 0⟩, ⟨0, 1⟩]⟩,
      ⟨"bookings_guest_room_id_fkey", [⟨1, 2⟩, ⟨1, 3⟩], 0, [⟨0, 0⟩, ⟨0, 1⟩]⟩]⟩
  have hmember : cx.dialect ∈ Dialect.builtins := by simp [cx, Context.new, Dialect.builtins]
  have ht : cx.catalog.table? 1 = some t := rfl
  have hdefault : t.HasExpressions cx.dialect := by simp [TableDef.HasExpressions, t, bookings, column]
  have hcompiles : ((Statement.schema (.createTable 1 false)).compile cx).toOption.isSome = true := by decide +kernel
  obtain ⟨command, hcommand⟩ := Option.isSome_iff_exists.mp hcompiles
  rw [Result.toOption_eq_some] at hcommand
  have hkeys : (t.foreignKeys.map fun key => (key.name, key.columnNames cx.catalog)) =
      [("bookings_guest_room_id_fkey", ["guest", "room_id"]), ("bookings_guest_room_id_fkey", ["guest_room", "id"])] := by
    decide +kernel
  have hnames := SchemaOp.constraintNames?_compile hmember ht ((wellFormed_ofDecls _).tables 1 t ht) hdefault hcommand
  have hstored : t.foreignKeys.map (cx.dialect.storedName ·.name) =
      ["bookings_guest_room_id_fkey", "bookings_guest_room_id_fkey"] := by
    decide +kernel
  exact ⟨t, command, ht, hkeys, hcommand, hnames.trans (congrArg some hstored)⟩

end Catalog

end PolySql
