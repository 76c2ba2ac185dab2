import PolySql.Proofs.Sql.Entries
import PolySql.Proofs.Sql.Naming
import PolySql.Proofs.Sql.Outcome

namespace PolySql

-- What the text that creates a table says of it: its columns, and for each declaration of a primary key the columns
-- of that key.
structure TableText where
  name : String
  columns : List String
  keys : List (List String)
  deriving DecidableEq

-- A part of the list in such a text. A column may declare itself to be the key, in vain more than once.
inductive TableItem
  | column (name : String) (keys : Nat)
  | key (columns : List String)
  | constraint
  deriving DecidableEq

namespace TableItem

def column? : TableItem → Option String
  | column name _ => some name
  | _ => none

def keys : TableItem → List (List String)
  | column name n => .replicate n [name]
  | key columns => [columns]
  | constraint => []

end TableItem

def TableText.ofEntries (name : String) (entries : List TableItem) : TableText :=
  ⟨name, entries.filterMap (·.column?), entries.flatMap (·.keys)⟩

namespace Dialect

variable (d : Dialect)

-- The name that the lexeme is, as the vendor stores it.
def nameOf? : Lexeme → Option String
  | .token t =>
    match d.readName? Shape.isNameChar t.chars with
    | some (s, []) => some (.ofList s)
    | _ => none
  | .value _ => none

def soleName? : List Lexeme → Option String
  | [l] => d.nameOf? l
  | _ => none

-- Names in parentheses, and what follows them.
def nameList? : List Lexeme → Option (List String × List Lexeme)
  | [] => none
  | l :: r =>
    if l.isSymbol '(' then do
      let (es, r) ← Lexeme.entries 0 [] r
      return (← es.mapM d.soleName?, r)
    else none

def constraint? (ls : List Lexeme) : Option TableItem :=
  match Lexeme.after? ["PRIMARY", "KEY"] ls with
  | some r => (d.nameList? r).map fun x => .key x.1
  | none =>
    if [["UNIQUE"], ["CHECK"], ["FOREIGN", "KEY"]].any fun ws => (Lexeme.after? ws ls).isSome then some .constraint
    else none

-- A part of the list that begins with a name defines a column; the others are constraints, with a name or without.
def tableItem? (ls : List Lexeme) : Option TableItem :=
  match ls with
  | [] => none
  | l :: r =>
    match d.nameOf? l with
    | some name => some (.column name (Lexeme.primaryKeys r))
    | none =>
      match Lexeme.after? ["CONSTRAINT"] ls with
      | some r => d.constraint? r.tail
      | none => d.constraint? ls

def tableBody? (name : String) (ls : List Lexeme) : Option TableText := do
  let (es, r) ← Lexeme.entries 0 [] ls
  let entries ← es.mapM d.tableItem?
  if r.isEmpty then return .ofEntries name entries else none

-- Reads a command that creates a table.
def tableText? (command : Command) : Option TableText := do
  let ls ← d.read 0 command.sql command.params
  let ls ← Lexeme.after? ["CREATE", "TABLE"] ls
  match (Lexeme.after? ["IF", "NOT", "EXISTS"] ls).getD ls with
  | l :: x :: r =>
    let name ← d.nameOf? l
    if x.isSymbol '(' then d.tableBody? name r else none
  | _ => none

end Dialect

namespace Dialect

variable {d : Dialect} (hd : d ∈ builtins)

include hd

theorem tableItem?_key (ls : List Lexeme) :
    d.tableItem? (.word "PRIMARY" :: .word "KEY" :: ls) = (d.nameList? ls).map fun x => .key x.1 := by
  have hname : ∀ d ∈ builtins, d.nameOf? (.word "PRIMARY") = none := by decide
  rw [tableItem?, hname d hd]
  rfl

theorem tableItem?_foreignKey (l : Lexeme) (ls : List Lexeme) :
    d.tableItem? (.word "CONSTRAINT" :: l :: .word "FOREIGN" :: .word "KEY" :: ls) = some .constraint := by
  have hname : ∀ d ∈ builtins, d.nameOf? (.word "CONSTRAINT") = none := by decide
  rw [tableItem?, hname d hd]
  rfl

end Dialect

-- Can the words stand in the definition of a column, which they declare the key that often?
def Lexis.defines (l : Lexis) (keys : Nat) (w : String) : Bool :=
  let ls := (l.words w).map .token
  l.fits 0 w 0 && Lexeme.isEntry ls && Lexeme.primaryKeys ls == keys

namespace Dialect

variable {d : Dialect} {n : Nat} {w : String} {ts us : List Token} {a b : List Char}

theorem defines_of_spells (h : d.lexis.Spells w.toList ts) (hplain : ts.all (·.kind != .placeholder) = true)
    (hnesting : Lexeme.nesting 0 (ts.map .token) = some 0) (hentry : Lexeme.isEntry (ts.map .token) = true)
    (hkeys : Lexeme.primaryKeys (ts.map .token) = n) : d.lexis.defines n w = true := by
  obtain ⟨all, hall, rfl⟩ := Option.map_eq_some_iff.mp h
  simp [Lexis.defines, Lexis.fits, Lexis.words, hall, hplain, hnesting, hentry, hkeys]

variable (hd : d ∈ builtins)

include hd

-- A type with what stands in parentheses after it.
theorem spells_parameters (hw : ∀ l ∈ Lexis.vendors, l.Spells (w ++ "(").toList ts ∧ l.opens (w ++ "(") = true)
    (ha : d.lexis.Spells a us) :
    d.lexis.Spells ((w ++ "(").toList ++ (a ++ [')'])) (ts ++ (us ++ [⟨.symbol, [')']⟩])) := by
  obtain ⟨hhead, hopens⟩ := hw _ (lexis_mem hd)
  have htail := ha.append (spells_symbol hd (c := ')') (by decide)) (ha.boundary (by simp [boundaries]))
  exact hhead.append htail (.of_symbol (by simpa [Lexis.opens] using hopens))

theorem spells_toString (n : Nat) : d.lexis.Spells (toString n).toList [⟨.number, Text.ofNat n⟩] := by
  have htext : (toString n).toList = Text.ofNat n := by simp [Text.ofNat]
  rw [htext]
  exact spells_numeral hd (Text.numeral_ofNat n)

theorem defines_sized (hw : ∀ l ∈ Lexis.vendors,
    l.Spells (w ++ "(").toList [⟨.word, w.toList⟩, ⟨.symbol, ['(']⟩] ∧ l.opens (w ++ "(") = true)
    {unit : String} (hu : unit = "" ∨ unit = " CHAR") (length : Nat) :
    d.lexis.defines 0 (sized w length unit) = true := by
  have hnumber := spells_toString hd length
  rcases hu with rfl | rfl
  case inl => exact defines_of_spells (by simpa [sized] using spells_parameters hd hw hnumber) rfl rfl rfl rfl
  case inr =>
    have hunit : ∀ l ∈ Lexis.vendors, l.Spells " CHAR".toList [⟨.word, "CHAR".toList⟩] := by decide
    have hblank : ∀ c ∈ " CHAR".toList.head?, c ∈ boundaries := by
      rintro _ ⟨⟩
      decide
    have := hnumber.append (hunit _ (lexis_mem hd)) (hnumber.boundary hblank)
    exact defines_of_spells (by simpa [sized] using spells_parameters hd hw this) rfl rfl rfl rfl

theorem defines_decimalType (hw : ∀ l ∈ Lexis.vendors,
    l.Spells (w ++ "(").toList [⟨.word, w.toList⟩, ⟨.symbol, ['(']⟩] ∧ l.opens (w ++ "(") = true)
    (hplain : isPlain w.toList = true) (precision scale : Option Nat) :
    d.lexis.defines 0 (decimalType w precision scale) = true := by
  cases precision
  case none => exact defines_of_spells (spells_plain hd hplain) rfl rfl rfl rfl
  case some p =>
    have hp := spells_toString hd p
    cases scale
    case none => exact defines_of_spells (by simpa [decimalType] using spells_parameters hd hw hp) rfl rfl rfl rfl
    case some s =>
      have hcomma : ∀ l ∈ Lexis.vendors, l.Spells ", ".toList [⟨.symbol, [',']⟩] ∧ l.opens ", " = true := by decide
      obtain ⟨hcomma, hopens⟩ := hcomma _ (lexis_mem hd)
      have hs := hcomma.append (spells_toString hd s) (.of_symbol (by simpa [Lexis.opens] using hopens))
      have := hp.append hs (hp.boundary (by simp [boundaries]))
      exact defines_of_spells (by simpa [decimalType] using spells_parameters hd hw this) rfl rfl rfl rfl

theorem defines_dataType (t : DataType) : d.lexis.defines 0 (d.dataType t) = true := by
  cases t
  case decimal p s =>
    have hmember := hd
    have htext : Lexis.sqlite.defines 0 "TEXT" = true := by decide
    simp only [builtins, List.mem_cons, List.not_mem_nil, or_false] at hd
    rcases hd with rfl | rfl | rfl | rfl | rfl
    case inr.inr.inl => exact htext
    all_goals exact defines_decimalType hmember (by decide) rfl p s
  case varchar n =>
    have hmember := hd
    simp only [builtins, List.mem_cons, List.not_mem_nil, or_false] at hd
    rcases hd with rfl | rfl | rfl | rfl | rfl
    all_goals exact defines_sized hmember (by decide) (by decide) n
  all_goals
    revert d
    decide

theorem defines_autoIncrement (w : IntWidth) :
    d.lexis.defines (d.autoIncrement (ColumnType.intDataType w)).declaresKey.toNat
      (d.autoIncrement (ColumnType.intDataType w)).typeSql = true := by
  cases w
  all_goals
    revert d
    decide

end Dialect

namespace Fragment

-- A part of the definition of a column, which it declares the key that often.
structure Defines (d : Dialect) (keys : Nat) (f : Fragment) : Prop where
  whole : Whole d f
  isEntry : Lexeme.IsEntry (f.lexemes d)
  primaryKeys : Lexeme.primaryKeys (f.lexemes d) = keys

-- What may be added to the definition of a column without a change to the key.
structure Attribute (d : Dialect) (f : Fragment) : Prop extends Defines d 0 f where
  trails : Trails f
  head : ∀ l ∈ (f.lexemes d).head?, l.isWord "KEY" = false

variable {d : Dialect} {n : Nat} {f g : Fragment} {w : String}

theorem Defines.words (h : d.lexis.defines n w = true) : Defines d n (words w) := by
  simp only [Lexis.defines, Bool.and_eq_true, beq_iff_eq] at h
  rw [← lexemes_words] at h
  exact ⟨.words h.1.1, .of_isEntry h.1.2, h.2⟩

theorem Defines.append (hf : Defines d n f) (hg : Attribute d g) : Defines d n (f ++ g) := by
  refine ⟨hf.whole.append hg.whole (.inr hg.trails), ?_, ?_⟩
  case refine_1 =>
    rw [lexemes_append]
    exact hf.isEntry.append hg.isEntry
  case refine_2 => rw [lexemes_append, Lexeme.primaryKeys_append hg.head, hf.primaryKeys, hg.primaryKeys, Nat.add_zero]

theorem Attribute.nil (d : Dialect) : Attribute d [] :=
  ⟨⟨.nil d 0, .nil, rfl⟩, .nil, by simp [lexemes]⟩

variable (hd : d ∈ Dialect.builtins)

include hd

-- Words after a blank, of which the first one is not the second half of a key.
theorem Attribute.phrase (hw : ∀ l ∈ Lexis.vendors, l.defines 0 w = true ∧ Lexis.closes w = true ∧
    ((l.words w).head?.any fun t => Lexeme.isWord "KEY" (.token t)) = false) : Attribute d (Fragment.words w) := by
  obtain ⟨hdefines, hcloses, hhead⟩ := hw _ (Dialect.lexis_mem hd)
  refine ⟨.words hdefines, .words hcloses [], ?_⟩
  rw [lexemes_words, List.head?_map]
  simpa [Option.any_eq_false] using hhead

theorem Defines.literal (v : Value) : Defines d 0 [.literal v] := by
  obtain ⟨ts, hts, hconstant⟩ := exists_constant hd v
  refine ⟨.literal hd v 0, ?_, ?_⟩ <;> rw [hts]
  · exact .of_isEntry (by cases hconstant <;> rfl)
  · cases hconstant
    case zoned => rfl
    all_goals simp [Lexeme.primaryKeys, Lexeme.isWord]

theorem Attribute.default (hf : Defines d 0 f) : Attribute d (Fragment.words " DEFAULT " ++ f) := by
  have hwords : ∀ l ∈ Lexis.vendors, l.words " DEFAULT " = [⟨.word, "DEFAULT".toList⟩] := by decide
  have hlexemes : (Fragment.words " DEFAULT " ++ f).lexemes d = .word "DEFAULT" :: f.lexemes d := by
    rw [lexemes_append, lexemes_words, hwords _ (Dialect.lexis_mem hd)]
    rfl
  refine ⟨⟨.after hd (by decide) hf.whole, ?_, ?_⟩, .words (by decide) f, ?_⟩ <;> rw [hlexemes]
  case refine_1 => exact .cons (by decide) hf.isEntry
  case refine_2 =>
    have hword : Lexeme.isWord "PRIMARY" (.word "DEFAULT") = false := by decide
    rw [Lexeme.primaryKeys, hword, Bool.and_false, hf.primaryKeys]
    rfl
  case refine_3 =>
    rintro _ ⟨⟩
    decide

end Fragment

theorem mapM_of_forall₂ {α β : Type} {f : α → Option β} {as : List α} {bs : List β}
    (h : List.Forall₂ (fun a b => f a = some b) as bs) : as.mapM f = some bs := by
  induction h
  case nil => rfl
  case cons hab _ ih => simp [List.mapM_cons, hab, ih]

-- A constraint, or a column's definition, that is read so.
structure Dialect.ReadsEntry (d : Dialect) (ls : List Lexeme) (entry : TableItem) : Prop where
  isEntry : Lexeme.IsEntry ls
  read : d.tableItem? ls = some entry

theorem Dialect.ReadsEntry.isEntry_of_mem {d : Dialect} {es : List (List Lexeme)} {entries : List TableItem}
    (h : List.Forall₂ d.ReadsEntry es entries) : ∀ e ∈ es, Lexeme.IsEntry e := by
  induction h
  case nil => exact nofun
  case cons he _ ih => exact List.forall_mem_cons.mpr ⟨he.isEntry, ih⟩

-- More of the list in a text that creates a table, each part after a comma.
structure Fragment.Continues (d : Dialect) (f : Fragment) (entries : List TableItem) : Prop extends Clause d f where
  exists_lexemes : ∃ es, f.lexemes d = es.flatMap (.symbol ',' :: ·) ∧ List.Forall₂ d.ReadsEntry es entries

-- The list in such a text, which is not empty.
structure Fragment.Lists (d : Dialect) (f : Fragment) (entries : List TableItem) : Prop where
  whole : Whole d f
  exists_lexemes : ∃ e es, f.lexemes d = e ++ es.flatMap (.symbol ',' :: ·) ∧ List.Forall₂ d.ReadsEntry (e :: es) entries

namespace Fragment

variable {d : Dialect} {f g : Fragment} {ls : List Lexeme} {entry : TableItem} {entries entries' : List TableItem}

theorem Continues.nil (d : Dialect) : Continues d [] [] :=
  ⟨.nil d, [], rfl, .nil⟩

theorem Continues.single (hf : Clause d f) (hls : f.lexemes d = .symbol ',' :: ls) (h : d.ReadsEntry ls entry) :
    Continues d f [entry] :=
  ⟨hf, [ls], by rw [hls, List.flatMap_singleton], .cons h .nil⟩

theorem Continues.append (hf : Continues d f entries) (hg : Continues d g entries') :
    Continues d (f ++ g) (entries ++ entries') := by
  obtain ⟨es, hes, hread⟩ := hf.exists_lexemes
  obtain ⟨es', hes', hread'⟩ := hg.exists_lexemes
  exact ⟨hf.toClause.append hg.toClause, es ++ es', by simp [hes, hes'], List.rel_append hread hread'⟩

theorem Lists.append (hf : Lists d f entries) (hg : Continues d g entries') : Lists d (f ++ g) (entries ++ entries') := by
  obtain ⟨e, es, hes, hread⟩ := hf.exists_lexemes
  obtain ⟨es', hes', hread'⟩ := hg.exists_lexemes
  exact ⟨hf.whole.append_clause hg.toClause, e, es ++ es', by simp [hes, hes'], List.rel_append hread hread'⟩

variable (hd : d ∈ Dialect.builtins)

include hd

-- A name is one lexeme, by which the vendor means the stored one.
theorem exists_nameOf? (s : String) : ∃ l, (name s).lexemes d = [l] ∧ d.nameOf? l = some (d.storedName s) ∧
    l.isInner = true := by
  obtain ⟨t, ht, hs, -, hchars⟩ := Dialect.spells_identifier hd s
  refine ⟨.token t, ?_, ?_, ?_⟩
  case refine_1 => simp [lexemes, Fragment.name, Piece.lexemes_of_spells (p := .name s) hs rfl]
  case refine_2 =>
    have := Dialect.readName?_toList_identifier hd (t := []) (fun _ => Dialect.isNameChar_of_isWordChar) s (by simp)
    rw [List.append_nil, ← hchars] at this
    simp [Dialect.nameOf?, this]
  case refine_3 => simp [Lexeme.isInner, ht.isSymbol_eq_false]

theorem isEntry_name (s : String) : Lexeme.IsEntry ((name s).lexemes d) := by
  obtain ⟨l, hl, -, hinner⟩ := exists_nameOf? hd s
  rw [hl]
  exact .cons hinner .nil

theorem lexemes_separated (f : Fragment) (fs : List Fragment) :
    (joined ", " (f :: fs)).lexemes d = f.lexemes d ++ (fs.map (·.lexemes d)).flatMap (.symbol ',' :: ·) := by
  have hcomma : ∀ l ∈ Lexis.vendors, l.words ", " = [⟨.symbol, [',']⟩] := by decide
  rw [lexemes_joined, lexemes_words, hcomma _ (Dialect.lexis_mem hd)]
  rfl

theorem nameList?_lexemes {names : List String} (h : names ≠ []) (r : List Lexeme) :
    d.nameList? ((nameList names).lexemes d ++ r) = some (names.map d.storedName, r) := by
  obtain ⟨s, ss, rfl⟩ := List.exists_cons_of_ne_nil h
  have hnames : ((s :: ss).map fun s => (name s).lexemes d).mapM d.soleName? = some ((s :: ss).map d.storedName) := by
    refine mapM_of_forall₂ (List.forall₂_map_left_iff.mpr (List.forall₂_map_right_iff.mpr (List.forall₂_same.mpr ?_)))
    intro s _
    obtain ⟨l, hl, hname, -⟩ := exists_nameOf? hd s
    rw [hl]
    exact hname
  have hrest : ∀ e ∈ ss.map fun s => (name s).lexemes d, Lexeme.IsEntry e :=
    List.forall_mem_map.mpr fun s _ => isEntry_name hd s
  have hentries := Lexeme.entries_separated (isEntry_name hd s) hrest r
  have hopening : (Lexeme.symbol '(').isSymbol '(' = true := by decide
  rw [nameList, lexemes_parenthesised hd, List.map_cons, lexemes_separated hd, List.map_map, Lexeme.grouped]
  rw [List.map_cons] at hnames
  simp only [List.cons_append, List.append_assoc, List.nil_append, Dialect.nameList?, hopening, if_true]
  simp only [Function.comp_def, hentries, Option.bind_eq_bind, Option.bind_some, hnames]
  rfl

theorem readsEntry_column {n : Nat} (s : String) (hf : Defines d n f) : Whole d (name s ++ (words " " ++ f)) ∧
    d.ReadsEntry ((name s ++ (words " " ++ f)).lexemes d) (.column (d.storedName s) n) := by
  have hblank : ∀ l ∈ Lexis.vendors, l.words " " = [] := by decide
  obtain ⟨l, hl, hname, hinner⟩ := exists_nameOf? hd s
  have hlexemes : (name s ++ (words " " ++ f)).lexemes d = l :: f.lexemes d := by
    rw [lexemes_append, lexemes_append, hl, lexemes_words, hblank _ (Dialect.lexis_mem hd)]
    rfl
  refine ⟨(Sound.name hd s 0).append_clause (.after hd (by decide) hf.whole), ?_⟩
  rw [hlexemes]
  exact ⟨.cons hinner hf.isEntry, by rw [Dialect.tableItem?, hname, hf.primaryKeys]⟩

theorem Lists.joined {fs : List Fragment} (hne : fs ≠ []) (hwhole : ∀ f ∈ fs, Whole d f)
    (hread : List.Forall₂ d.ReadsEntry (fs.map (·.lexemes d)) entries) : Lists d (joined ", " fs) entries := by
  obtain ⟨f, fs, rfl⟩ := List.exists_cons_of_ne_nil hne
  exact ⟨.joined hd (by decide) hwhole, _, _, lexemes_separated hd f fs, hread⟩

omit hd in
theorem Lists.tableBody? (hf : Lists d f entries) (s : String) :
    d.tableBody? s (f.lexemes d ++ [.symbol ')']) = some (.ofEntries s entries) := by
  obtain ⟨e, es, hes, hread⟩ := hf.exists_lexemes
  obtain ⟨he, hmem⟩ := List.forall_mem_cons.mp (Dialect.ReadsEntry.isEntry_of_mem hread)
  have hentries := Lexeme.entries_separated he hmem []
  have hall : (e :: es).mapM d.tableItem? = some entries := mapM_of_forall₂ (hread.imp fun _ _ h => h.read)
  rw [hes, List.append_assoc, Dialect.tableBody?, hentries]
  simp only [Option.bind_eq_bind, Option.bind_some, hall]
  rfl

-- The command that creates a table, with or without the words that ask for the table to be missing, is the table's name
-- and then the list.
theorem exists_read_createTable (hf : Whole d f) (hhead : Head d g)
    (hg : g.lexemes d = [] ∨ g.lexemes d = ["IF", "NOT", "EXISTS"].map .word) (s : String)
    {h : Fragment} (hh : h = words "CREATE TABLE " ++ g ++ name s ++ words " " ++ parenthesised f) :
    ∃ all ls l, d.read 0 (h.text d 0) h.params = some all ∧ Lexeme.after? ["CREATE", "TABLE"] all = some ls ∧
      (Lexeme.after? ["IF", "NOT", "EXISTS"] ls).getD ls = l :: .symbol '(' :: (f.lexemes d ++ [.symbol ')']) ∧
      d.nameOf? l = some (d.storedName s) := by
  obtain ⟨l, hl, hname, -⟩ := exists_nameOf? hd s
  have hwords : ∀ l ∈ Lexis.vendors, l.words "CREATE TABLE " = [⟨.word, "CREATE".toList⟩, ⟨.word, "TABLE".toList⟩] ∧
      l.words " " = [] := by
    decide
  obtain ⟨hcreate, hblank⟩ := hwords _ (Dialect.lexis_mem hd)
  have hwhole : Whole d h := by
    have hcreate : Head d (words "CREATE TABLE ") := .words hd (by decide)
    have hlist : Clause d (words " " ++ parenthesised f) := .after hd (by decide) (.parenthesised hd hf)
    rw [hh, List.append_assoc]
    exact ((hcreate.append hhead).whole_append (.name hd s 0)).append_clause hlist
  have hlexemes : h.lexemes d =
      .word "CREATE" :: .word "TABLE" :: (g.lexemes d ++ l :: .symbol '(' :: (f.lexemes d ++ [.symbol ')'])) := by
    rw [hh]
    simp only [lexemes_append, lexemes_words, hcreate, hblank, hl, lexemes_parenthesised hd]
    simp [Lexeme.word, Lexeme.grouped]
  refine ⟨_, g.lexemes d ++ l :: .symbol '(' :: (f.lexemes d ++ [.symbol ')']), l, read_text hd hwhole 0, ?_, ?_, hname⟩
  case refine_1 =>
    rw [hlexemes]
    rfl
  case refine_2 =>
    rcases hg with hg | hg <;> rw [hg]
    case inl =>
      rw [List.nil_append, Lexeme.after?]
      split <;> rfl
    case inr => rfl

theorem Lists.tableText? (hf : Lists d f entries) (hhead : Head d g)
    (hg : g.lexemes d = [] ∨ g.lexemes d = ["IF", "NOT", "EXISTS"].map .word) (s : String)
    {h : Fragment} (hh : h = words "CREATE TABLE " ++ g ++ name s ++ words " " ++ parenthesised f) :
    d.tableText? ⟨h.text d 0, h.params⟩ = some (.ofEntries (d.storedName s) entries) := by
  obtain ⟨all, ls, l, hall, hls, hguard, hname⟩ := exists_read_createTable hd hf.whole hhead hg s hh
  have hopening : (Lexeme.symbol '(').isSymbol '(' = true := by decide
  rw [Dialect.tableText?]
  simp only [hall, Option.bind_eq_bind, Option.bind_some, hls, hguard, hname, hopening, if_true, hf.tableBody?]

end Fragment

end PolySql
