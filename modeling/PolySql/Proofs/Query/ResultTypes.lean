import Mathlib.Data.List.Forall2
import PolySql.Dialect.Builtin
import PolySql.Execution.Rows
import PolySql.Proofs.Query.Resolution

namespace PolySql

namespace ResultField

def type? (c : Catalog) (f : ResultField) : Option ColumnType :=
  f.origin.bind c.columnType?

-- A declared type is the column's own, and is left out only where the column has no name.
structure Fits (c : Catalog) (type : Option ColumnType) (f : ResultField) : Prop where
  of_some : ∀ t, type = some t → f.type? c = some t
  of_name : f.name ≠ none → type = f.type? c

-- What becomes of a cell: it is taken as it comes or decoded by the type of its own column.
def Reads (c : Catalog) (f : ResultField) (cell : Value) (r : Result Value) : Prop :=
  (f.name = none ∨ f.type? c = none) ∧ r = .ok cell ∨ ∃ t, f.type? c = some t ∧ r = t.decode cell

namespace Fits

variable {c : Catalog} {type : Option ColumnType} {f : ResultField}

theorem self (f : ResultField) : Fits c (f.type? c) f :=
  ⟨fun _ h => h, fun _ => rfl⟩

theorem unnamed (h : Fits c type f) : Fits c type f.unnamed :=
  ⟨h.of_some, fun hne => absurd rfl hne⟩

theorem none (f : ResultField) : Fits c .none f.unnamed :=
  ⟨nofun, fun hne => absurd rfl hne⟩

theorem map_type? (fields : List ResultField) : List.Forall₂ (Fits c) (fields.map (·.type? c)) fields := by
  induction fields
  case nil => exact .nil
  case cons f fields ih => exact .cons (self f) ih

theorem reads (h : Fits c type f) (cell : Value) :
    ∃ r, f.Reads c cell r ∧ r = type.elim (.ok cell) (·.decode cell) := by
  cases type
  case none =>
    refine ⟨.ok cell, .inl ⟨?_, rfl⟩, rfl⟩
    by_cases hname : f.name = .none
    case pos => exact .inl hname
    case neg => exact .inr (h.of_name hname).symm
  case some t => exact ⟨t.decode cell, .inr ⟨t, h.of_some t rfl, rfl⟩, rfl⟩

end Fits

end ResultField

open ResultField

namespace Rows

theorem reads_of_fits {c : Catalog} {types : List (Option ColumnType)} {fields : List ResultField} {cells : Cells}
    (h : List.Forall₂ (Fits c) types fields) (hlength : cells.length = fields.length) :
    ∃ rs : List (Result Value), decodeCells types cells = rs.mapM id ∧
      List.Forall₂ (fun (f, cell) r => Reads c f cell r) (fields.zip cells) rs := by
  induction h generalizing cells
  case nil =>
    obtain rfl := List.length_eq_zero_iff.mp hlength
    exact ⟨[], rfl, .nil⟩
  case cons type f types fields hfits _ ih =>
    cases cells
    case nil => nomatch hlength
    case cons cell cells =>
      obtain ⟨rs, hdecode, hrs⟩ := ih (Nat.succ.inj hlength)
      obtain ⟨r, hr, heq⟩ := hfits.reads cell
      refine ⟨r :: rs, ?_, .cons hr hrs⟩
      cases type
      all_goals
        rw [decodeCells, hdecode, List.mapM_cons, heq]
        rfl

-- Every row of the columns' width is decoded cell by cell, each as one of its own column.
def ReadsOwn (rows : Rows) (c : Catalog) (fields : List ResultField) : Prop :=
  ∀ cells : Cells, cells.length = fields.length → ∃ rs : List (Result Value),
    rows.decode cells = (rs.mapM id).map (⟨rows.columns, ·⟩) ∧
      List.Forall₂ (fun (f, cell) r => Reads c f cell r) (fields.zip cells) rs

theorem readsOwn_ofAnswer {c : Catalog} {types : List (Option ColumnType)} {fields : List ResultField}
    (h : List.Forall₂ (Fits c) types fields) (answer : Answer) : (ofAnswer types answer).ReadsOwn c fields := by
  intro cells hlength
  obtain ⟨rs, hdecode, hrs⟩ := reads_of_fits h hlength
  refine ⟨rs, ?_, hrs⟩
  rw [decode, ofAnswer, hdecode]
  rfl

end Rows

namespace Column

def isStar : Column → Bool
  | .star _ => true
  | _ => false

-- The types that are declared for an expression of a list, given those of all columns of the scope.
def declared (c : Catalog) (own : List (Option ColumnType)) : Column → List (Option ColumnType)
  | .star (some table) => c.tableTypes table
  | .star none => own
  | column => [column.type? c]

theorem declared_of_not_isStar {a : Column} (h : a.isStar = false) : a.declared c own = [a.type? c] := by
  cases a
  case star => nomatch h
  all_goals rfl

theorem flatMap_declared {as : List Column} (h : as.any isStar = false) :
    as.flatMap (declared c own) = as.map (·.type? c) := by
  induction as
  case nil => rfl
  case cons a as ih =>
    rw [List.any_cons, Bool.or_eq_false_iff] at h
    rw [List.flatMap_cons, declared_of_not_isStar h.1, ih h.2]
    rfl

theorem type?_of_isStar {a : Column} (h : a.isStar = true) : a.type? c = none := by
  cases a
  case star => rfl
  all_goals nomatch h

end Column

theorem Select.resultTypes_eq (c : Catalog) (s : Select) :
    s.resultTypes c = s.columns.flatMap (Column.declared c (s.table.starTypes c)) := by
  cases s
  rfl

theorem Select.firstType?_eq (c : Catalog) (s : Select) : s.firstType? c = Column.headType? c s.columns := by
  cases s
  rfl

theorem Catalog.map_type?_fields (c : Catalog) (table : TableId) :
    (c.fields table).map (·.type? c) = c.tableTypes table := by
  refine List.ext_getElem (by simp [fields, columnIds, tableTypes]) fun i hi _ => ?_
  have hlt : i < (c.columns table).length := by simpa [fields, columnIds] using hi
  simp [fields, columnIds, tableTypes, ResultField.type?, columnType?, column?, hlt]

namespace ResultField.Fits

variable {c : Catalog}

theorem source (c : Catalog) (table : TableId) (aliasName : Option String) :
    List.Forall₂ (Fits c) (c.tableTypes table) ([c.source table aliasName].flatMap (·.fields)) := by
  rw [List.flatMap_singleton, ← c.map_type?_fields]
  exact map_type? _

-- Columns of the origins of a table's have their types.
theorem of_origins {fields : List ResultField} {table : TableId}
    (h : fields.map (·.origin) = (c.columnIds table).map some) : List.Forall₂ (Fits c) (c.tableTypes table) fields := by
  have htypes : c.tableTypes table = fields.map (·.type? c) := by
    have hmap := congrArg (List.map (·.bind c.columnType?)) h
    rw [← c.map_type?_fields]
    simpa [Catalog.fields, Function.comp_def, ResultField.type?] using hmap.symm
  rw [htypes]
  exact map_type? _

-- An expression that is the only column of a list declares the type of the list's head.
theorem headType? {own : List (Option ColumnType)} {columns : List Column} {f : ResultField}
    (h : List.Forall₂ (Fits c) (columns.flatMap (Column.declared c own)) [f]) :
    Fits c (Column.headType? c columns) f.unnamed := by
  cases columns
  case nil => exact .none f
  case cons a r =>
    rw [Column.headType?]
    cases ha : a.isStar
    case false =>
      rw [List.flatMap_cons, Column.declared_of_not_isStar ha] at h
      cases h
      case cons h _ => exact h.unnamed
    case true =>
      rw [Column.type?_of_isStar ha]
      exact .none f

theorem computed : List.Forall₂ (Fits c) [.none] Resolution.computed.found :=
  .cons (.none ⟨.none, .none⟩) .nil

theorem operand {own : List (Option ColumnType)} {columns : List Column} {r r' : Resolution ResultField}
    (h : r.operand? = some r') (hr : r'.isFaithful = true)
    (hfits : r.isFaithful = true → List.Forall₂ (Fits c) (columns.flatMap (Column.declared c own)) r.found) :
    List.Forall₂ (Fits c) [Column.headType? c columns] r'.found := by
  unfold Resolution.operand? at h
  split at h
  case h_1 f isFaithful =>
    cases h
    exact .cons (headType? (hfits hr)) .nil
  case h_2 => nomatch h

end ResultField.Fits

mutual

theorem Column.fits_resolve? {cx : Context} {scopes : List (List Source)} {own : List (Option ColumnType)}
    {r : Resolution ResultField} (hown : List.Forall₂ (Fits cx.catalog) own ((scopes.headD []).flatMap (·.fields)))
    (a : Column) (h : a.resolve? cx scopes = some r) (hr : r.isFaithful = true) :
    List.Forall₂ (Fits cx.catalog) (a.declared cx.catalog own) r.found := by
  cases a
  case physical id aliasName =>
    rw [Column.resolve?] at h
    obtain ⟨field, -, ⟨⟩⟩ := Option.bind_eq_some_iff.mp h
    have horigin : field.origin = some id := by simpa using hr
    rw [horigin]
    exact .cons (.self ⟨_, some id⟩) .nil
  case param =>
    cases h
    exact Fits.computed
  case literal =>
    cases h
    exact Fits.computed
  case null =>
    cases h
    exact Fits.computed
  case subSelect s =>
    rw [Column.resolve?] at h
    obtain ⟨r, hs, h⟩ := Option.bind_eq_some_iff.mp h
    have hfits := s.fits_resolve? hs
    rw [s.resultTypes_eq] at hfits
    rw [Column.declared, Column.type?, s.firstType?_eq]
    · exact Fits.operand h hr hfits
    all_goals nofun
  case star table =>
    cases table
    case none =>
      cases h
      exact hown
    case some table =>
      rw [Column.resolve?, Context.tableStar?] at h
      split at h
      case h_1 source _ =>
        cases h
        exact Fits.of_origins (by simpa using hr)
      case h_2 => nomatch h
  case function f =>
    rw [Column.resolve?] at h
    exact f.fits_resolve? hown h hr
termination_by structural a

theorem Column.fits_resolveAll? {cx : Context} {scopes : List (List Source)} {own : List (Option ColumnType)}
    {r : Resolution ResultField} (hown : List.Forall₂ (Fits cx.catalog) own ((scopes.headD []).flatMap (·.fields)))
    (as : List Column) (h : Column.resolveAll? cx scopes as = some r) (hr : r.isFaithful = true) :
    List.Forall₂ (Fits cx.catalog) (as.flatMap (Column.declared cx.catalog own)) r.found := by
  cases as
  case nil =>
    cases h
    exact .nil
  case cons a as =>
    rw [Column.resolveAll?] at h
    obtain ⟨head, hhead, h⟩ := Option.bind_eq_some_iff.mp h
    obtain ⟨tail, htail, ⟨⟩⟩ := Option.bind_eq_some_iff.mp h
    obtain ⟨hr, hrs⟩ := Bool.and_eq_true_iff.mp hr
    rw [List.flatMap_cons]
    exact List.rel_append (a.fits_resolve? hown hhead hr) (Column.fits_resolveAll? hown as htail hrs)
termination_by structural as

theorem Column.fits_resolveHead? {cx : Context} {scopes : List (List Source)} {own : List (Option ColumnType)}
    {r : Resolution ResultField} (hown : List.Forall₂ (Fits cx.catalog) own ((scopes.headD []).flatMap (·.fields)))
    (as : List Column) (h : Column.resolveHead? cx scopes as = some r) (hr : r.isFaithful = true) :
    List.Forall₂ (Fits cx.catalog) [Column.headType? cx.catalog as] r.found := by
  cases as
  case nil =>
    cases h
    exact Fits.computed
  case cons a as =>
    rw [Column.resolveHead?] at h
    obtain ⟨r, ha, h⟩ := Option.bind_eq_some_iff.mp h
    have hfits := a.fits_resolve? hown ha
    rw [← List.flatMap_singleton (Column.declared cx.catalog own) a] at hfits
    change List.Forall₂ _ [Column.headType? _ [a]] _
    exact Fits.operand h hr hfits
termination_by structural as

theorem Function.fits_resolve? {cx : Context} {scopes : List (List Source)} {own : List (Option ColumnType)}
    {r : Resolution ResultField} (hown : List.Forall₂ (Fits cx.catalog) own ((scopes.headD []).flatMap (·.fields)))
    (f : Function) (h : f.resolve? cx scopes = some r) (hr : r.isFaithful = true) :
    List.Forall₂ (Fits cx.catalog) [f.resultType? cx.catalog] r.found := by
  cases f
  case mk kind args distinct window =>
    rw [Function.resolve?] at h
    rw [Function.resultType?]
    split at h
    case isTrue hkind =>
      rw [if_pos hkind]
      exact Column.fits_resolveHead? hown args h hr
    case isFalse hkind =>
      rw [if_neg hkind]
      cases h
      exact Fits.computed
termination_by structural f

theorem Table.fits_resolve? {cx : Context} {outer : List (List Source)} {r : Resolution Source} (t : Table)
    (h : t.resolve? cx outer = some r) (hr : r.isFaithful = true) :
    List.Forall₂ (Fits cx.catalog) (t.starTypes cx.catalog) (r.found.flatMap (·.fields)) := by
  cases t
  case physical id aliasName =>
    cases h
    exact Fits.source cx.catalog id aliasName
  case join kind left right condition =>
    rw [Table.resolve?] at h
    obtain ⟨l, hleft, h⟩ := Option.bind_eq_some_iff.mp h
    obtain ⟨r, hright, ⟨⟩⟩ := Option.bind_eq_some_iff.mp h
    obtain ⟨hl, hr⟩ := Bool.and_eq_true_iff.mp hr
    rw [Table.starTypes, Resolution.append, List.flatMap_append]
    exact List.rel_append (left.fits_resolve? hleft hl) (right.fits_resolve? hright hr)
  case subSelect s aliasName =>
    rw [Table.resolve?] at h
    obtain ⟨r, hs, ⟨⟩⟩ := Option.bind_eq_some_iff.mp h
    rw [Table.starTypes, List.flatMap_singleton]
    exact s.fits_resolve? hs hr
termination_by structural t

theorem Select.fits_resolve? {cx : Context} {outer : List (List Source)} {r : Resolution ResultField} (s : Select)
    (h : s.resolve? cx outer = some r) (hr : r.isFaithful = true) :
    List.Forall₂ (Fits cx.catalog) (s.resultTypes cx.catalog) r.found := by
  cases s
  case mk table columns _ _ _ _ _ _ _ _ =>
    rw [Select.resolve?] at h
    obtain ⟨sources, htable, h⟩ := Option.bind_eq_some_iff.mp h
    obtain ⟨r', hcolumns, ⟨⟩⟩ := Option.bind_eq_some_iff.mp h
    obtain ⟨hsources, hr⟩ := Bool.and_eq_true_iff.mp hr
    have hfits := Column.fits_resolveAll? (table.fits_resolve? htable hsources) columns hcolumns hr
    rwa [Select.resultTypes_eq]
termination_by structural s

end

section

variable {cx : Context} {table : TableId} {r : Resolution ResultField}

theorem Column.fits_returned (as : List Column)
    (h : Column.resolveAll? cx [[cx.catalog.source table none]] as = some r) (hr : r.isFaithful = true)
    (hstar : as.any isStar = false) : List.Forall₂ (Fits cx.catalog) (as.map (·.type? cx.catalog)) r.found := by
  rw [← flatMap_declared hstar]
  exact fits_resolveAll? (Fits.source cx.catalog table none) as h hr

-- The columns of a table are all that a star in a list of returned columns can stand for.
theorem Column.length_resolve? (a : Column) (h : a.resolve? cx [[cx.catalog.source table none]] = some r)
    (hr : r.isFaithful = true) : r.found.length = if a.isStar then (cx.catalog.columns table).length else 1 := by
  have hfields : (cx.catalog.source table none).fields.length = (cx.catalog.columns table).length := by
    simp [Catalog.source, Catalog.fields, Catalog.columnIds]
  cases ha : a.isStar
  case false =>
    have hlength := (a.fits_resolve? (Fits.source cx.catalog table none) h hr).length_eq
    rw [Column.declared_of_not_isStar ha] at hlength
    exact hlength.symm
  case true =>
    cases a
    case star star =>
      cases star
      case none =>
        cases h
        simpa using hfields
      case some other =>
        rw [Column.resolve?, Context.tableStar?] at h
        split at h
        case h_1 source hsource =>
          cases h
          have hmem : source ∈ cx.labelled [cx.catalog.source table none] (cx.catalog.tableName other) :=
            hsource ▸ List.mem_singleton_self source
          obtain rfl := List.mem_singleton.mp (List.mem_filter.mp hmem).1
          exact hfields
        case h_2 => cases h
    all_goals cases ha

theorem Column.length_resolveAll? (as : List Column)
    (h : Column.resolveAll? cx [[cx.catalog.source table none]] as = some r) (hr : r.isFaithful = true) :
    r.found.length + as.countP isStar = as.length + as.countP isStar * (cx.catalog.columns table).length := by
  induction as generalizing r
  case nil =>
    cases h
    simp [Resolution.empty]
  case cons a as ih =>
    rw [Column.resolveAll?] at h
    obtain ⟨head, hhead, h⟩ := Option.bind_eq_some_iff.mp h
    obtain ⟨tail, htail, ⟨⟩⟩ := Option.bind_eq_some_iff.mp h
    obtain ⟨hr, hrs⟩ := Bool.and_eq_true_iff.mp hr
    have ha := a.length_resolve? hhead hr
    have hs := ih htail hrs
    rw [Resolution.append, List.length_append, List.countP_cons, List.length_cons, ha, Nat.add_mul]
    split
    case isTrue => omega
    case isFalse => omega

end

namespace Statement

def returnsStar (s : Statement) : Bool :=
  s.returned?.any fun (_, returning) => returning.any Column.isStar

variable {cx : Context} {s : Statement} {r : Resolution ResultField}

theorem resultTypes_of_returned? (h : s.returned? = some (table, returning)) :
    s.resultTypes c = returning.map (·.type? c) := by
  cases s <;> cases h <;> rfl

theorem resolve?_of_returned? (h : s.returned? = some (table, returning)) :
    s.resolve? cx = Column.resolveAll? cx.unqualified [[cx.catalog.source table none]] returning := by
  cases s <;> cases h <;> rfl

theorem fits_resolve? (h : s.resolve? cx = some r) (hr : r.isFaithful = true) (hstar : s.returnsStar = false) :
    List.Forall₂ (Fits cx.catalog) (s.resultTypes cx.catalog) r.found := by
  cases hs : s.returned?
  case none =>
    cases s
    case select s => exact s.fits_resolve? h hr
    case raw => nomatch h
    case schema => nomatch h
    all_goals nomatch hs
  case some list =>
    rw [resolve?_of_returned? hs] at h
    rw [returnsStar, hs] at hstar
    rw [resultTypes_of_returned? hs]
    have hfits := Column.fits_returned list.2 h hr hstar
    exact hfits

theorem length_resolve?_iff (h : s.resolve? cx = some r) (hr : r.isFaithful = true)
    (hs : s.returned? = some (table, returning)) : (s.resultTypes cx.catalog).length = r.found.length ↔
      s.returnsStar = false ∨ (cx.catalog.columns table).length = 1 := by
  have hstar : s.returnsStar = false ↔ returning.countP Column.isStar = 0 := by
    simp [returnsStar, hs, List.countP_eq_zero]
  rw [resolve?_of_returned? hs] at h
  have hlength := Column.length_resolveAll? returning h hr
  change _ = _ + _ * (cx.catalog.columns table).length at hlength
  rw [resultTypes_of_returned? hs, List.length_map, hstar]
  cases hcount : returning.countP Column.isStar
  case zero =>
    rw [hcount, Nat.zero_mul] at hlength
    simpa using hlength.symm
  case succ k =>
    have hmul : (k + 1) * (cx.catalog.columns table).length = k + 1 ↔ (cx.catalog.columns table).length = 1 :=
      Nat.mul_eq_left (Nat.succ_ne_zero k)
    rw [hcount] at hlength
    simp only [Nat.succ_ne_zero, false_or, ← hmul]
    omega

-- The declared types are those of the result's columns, but for a star in the list of what a change returns: it has
-- one entry for all columns of the table.
theorem resultTypes_fit (h : s.resolve? cx = some r) (hr : r.isFaithful = true) :
    (s.returnsStar = false → List.Forall₂ (Fits cx.catalog) (s.resultTypes cx.catalog) r.found ∧
      ∀ answer, (Rows.ofAnswer (s.resultTypes cx.catalog) answer).ReadsOwn cx.catalog r.found) ∧
    ∀ table returning, s.returned? = some (table, returning) →
      ((s.resultTypes cx.catalog).length = r.found.length ↔
        s.returnsStar = false ∨ (cx.catalog.columns table).length = 1) := by
  constructor
  case left =>
    intro hstar
    have hfits := fits_resolve? h hr hstar
    exact ⟨hfits, Rows.readsOwn_ofAnswer hfits⟩
  case right => exact fun table returning hs => length_resolve?_iff h hr hs

theorem resultTypes_of_join :
    let column (name : String) (type : ColumnType) : ColumnDef := ⟨name, type, false, false, false, none⟩
    let people : TableDef := ⟨"people", [column "id" (.int .bits32), column "Name" (.string (some 100))], [0], [], []⟩
    let pets : TableDef := ⟨"pets", [column "id" (.int .bits64), column "owner" (.int .bits32)], [0], [], []⟩
    let newest : Column := .function ⟨.max, [.physical ⟨1, 0⟩ none], false, none⟩
    let pet : Table := .subSelect (.new (.physical 1 none) [.physical ⟨1, 1⟩ none, newest]) "pet"
    let owned : Predicate := .comparison .eq (.physical ⟨0, 0⟩ none) (.physical ⟨1, 1⟩ (some "pet"))
    let s : Statement := .select (.new (.join .left (.physical 0 none) pet owned)
      [.star none, .star (some 0), .physical ⟨1, 1⟩ (some "pet"), .subSelect (.new (.physical 1 none) [newest])])
    let cx : Context := .new ⟨[people, pets]⟩ .postgres none
    ∃ r, s.resolve? cx = some r ∧ r.isFaithful = true ∧
      r.found.map (·.origin) = [some ⟨0, 0⟩, some ⟨0, 1⟩, some ⟨1, 1⟩, some ⟨1, 0⟩, some ⟨0, 0⟩, some ⟨0, 1⟩,
        some ⟨1, 1⟩, some ⟨1, 0⟩] ∧
      List.Forall₂ (Fits cx.catalog) (s.resultTypes cx.catalog) r.found := by
  intro column people pets newest pet owned s cx
  have hsome : (s.resolve? cx).map (fun r => (r.isFaithful, r.found.map (·.origin))) = some (true,
      [some ⟨0, 0⟩, some ⟨0, 1⟩, some ⟨1, 1⟩, some ⟨1, 0⟩, some ⟨0, 0⟩, some ⟨0, 1⟩, some ⟨1, 1⟩, some ⟨1, 0⟩]) := by
    decide +kernel
  obtain ⟨r, h, heq⟩ := Option.map_eq_some_iff.mp hsome
  obtain ⟨hr, horigins⟩ := Prod.mk.inj heq
  exact ⟨r, h, hr, horigins, ((resultTypes_fit h hr).1 rfl).1⟩

-- The second cell is a name, and is decoded as the number that comes fourth.
theorem returned_star_misread :
    let column (name : String) (type : ColumnType) : ColumnDef := ⟨name, type, false, false, false, none⟩
    let people : TableDef := ⟨"people", [column "id" (.int .bits32), column "name" (.string (some 100)),
      column "age" (.int .bits16)], [0], [], []⟩
    let s : Statement := .delete { Delete.new 0 with returning := [.star none, .physical ⟨0, 0⟩ none] }
    let cx : Context := .new ⟨[people]⟩ .postgres none
    ∃ r, s.resolve? cx = some r ∧ r.isFaithful = true ∧
      r.found.map (·.origin) = [some ⟨0, 0⟩, some ⟨0, 1⟩, some ⟨0, 2⟩, some ⟨0, 0⟩] ∧
      s.resultTypes cx.catalog = [none, some (.int .bits32)] ∧
      cx.catalog.columnType? ⟨0, 1⟩ = some (.string (some 100)) ∧
      (Rows.ofAnswer (s.resultTypes cx.catalog) .none).decode [.int 1, .text "Ann", .int 30, .int 1] =
        .error (.typeMismatch "32-bit integer" "Text(\"Ann\")" "text") := by
  intro column people s cx
  have hsome : (s.resolve? cx).map (fun r => (r.isFaithful, r.found.map (·.origin))) =
      some (true, [some ⟨0, 0⟩, some ⟨0, 1⟩, some ⟨0, 2⟩, some ⟨0, 0⟩]) := by
    decide +kernel
  obtain ⟨r, h, heq⟩ := Option.map_eq_some_iff.mp hsome
  obtain ⟨hr, horigins⟩ := Prod.mk.inj heq
  exact ⟨r, h, hr, horigins, rfl, rfl, rfl⟩

end Statement

end PolySql
