import Mathlib.Data.List.Nodup
import PolySql.Proofs.Catalog.Growth
import PolySql.Proofs.Schema.Creation

namespace PolySql

-- Two names that both stand without quotes and differ, if at all, in the case of letters that the vendor folds.
structure Dialect.Clash (d : Dialect) (a b : String) : Prop where
  folds : d.identifierCase ≠ .preserve
  plain : d.needsQuotes a = false ∧ d.needsQuotes b = false
  same : upperWord a.toList = upperWord b.toList

namespace Dialect

instance (d : Dialect) (a b : String) : Decidable (d.Clash a b) :=
  decidable_of_iff (d.identifierCase ≠ .preserve ∧ (d.needsQuotes a = false ∧ d.needsQuotes b = false) ∧
    upperWord a.toList = upperWord b.toList) ⟨fun ⟨h₁, h₂, h₃⟩ => ⟨h₁, h₂, h₃⟩, fun ⟨h₁, h₂, h₃⟩ => ⟨h₁, h₂, h₃⟩⟩

variable {d : Dialect} {a b : String} {s t : List Char}

theorem toLower_toUpper (h : isWordChar c = true) : c.toUpper.toLower = c.toLower :=
  of_isWordChar (p := fun c => c.toUpper.toLower = c.toLower) (by decide) h

theorem map_toLower_toUpper (h : isPlain s = true) : (s.map Char.toUpper).map Char.toLower = s.map Char.toLower :=
  (List.map_map ..).trans (List.map_congr_left fun c hc => toLower_toUpper (all_of_isPlain h c hc))

theorem fold_eq_of_upperWord_eq (hfolds : d.identifierCase ≠ .preserve) (hs : isPlain s = true) (ht : isPlain t = true)
    (h : upperWord s = upperWord t) : d.fold s = d.fold t := by
  have h : s.map Char.toUpper = t.map Char.toUpper := String.ofList_injective h
  cases hcase : d.identifierCase <;> simp only [fold, hcase]
  case preserve => exact absurd hcase hfolds
  case upper => exact h
  case lower => rw [← map_toLower_toUpper hs, ← map_toLower_toUpper ht, h]

-- Two names are stored as one exactly if they clash.
theorem storedName_eq_iff : d.storedName a = d.storedName b ↔ a = b ∨ d.Clash a b := by
  constructor
  case mp =>
    intro h
    have hquotes : d.needsQuotes a = d.needsQuotes b := by
      rw [← needsQuotes_storedName, h, needsQuotes_storedName]
    cases hb : d.needsQuotes b <;> rw [hb] at hquotes
    case true => exact .inl (by simpa [storedName, hquotes, hb] using h)
    case false =>
      have hfold : d.fold a.toList = d.fold b.toList :=
        String.ofList_injective (by simpa [storedName, hquotes, hb] using h)
      by_cases hfolds : d.identifierCase = .preserve
      case pos => exact .inl (by simpa [fold, hfolds, String.toList_inj] using hfold)
      case neg =>
        refine .inr ⟨hfolds, ⟨hquotes, hb⟩, ?_⟩
        rw [← upperWord_fold d (isPlain_of_not_needsQuotes hquotes), hfold,
          upperWord_fold d (isPlain_of_not_needsQuotes hb)]
  case mpr =>
    rintro (rfl | ⟨hfolds, ⟨ha, hb⟩, hsame⟩)
    case inl => rfl
    case inr =>
      have hfold := fold_eq_of_upperWord_eq hfolds (isPlain_of_not_needsQuotes ha) (isPlain_of_not_needsQuotes hb) hsame
      simp [storedName, ha, hb, hfold]

theorem storedName_eq_iff_clash {α : Type} {l : List α} {name : α → String} {x y : α} (h : (l.map name).Nodup)
    (hx : x ∈ l) (hy : y ∈ l) (hne : x ≠ y) :
    d.storedName (name x) = d.storedName (name y) ↔ d.Clash (name x) (name y) := by
  have hname : name x ≠ name y := fun hname => hne (List.inj_on_of_nodup_map h hx hy hname)
  rw [storedName_eq_iff, or_iff_right hname]

theorem storedName_eq_self {name : String} :
    d.storedName name = name ↔ d.needsQuotes name = true ∨ d.fold name.toList = name.toList := by
  cases hq : d.needsQuotes name
  case true => simp [storedName, hq]
  case false => simp [storedName, hq, ← String.toList_inj]

-- A name as it is stored is stored as it is.
theorem storedName_storedName (name : String) : d.storedName (d.storedName name) = d.storedName name := by
  cases hq : d.needsQuotes name
  case true => simp [storedName, hq]
  case false =>
    rw [storedName_eq_iff]
    by_cases hfolds : d.identifierCase = .preserve
    case pos => exact .inl (by simp [storedName, fold, hfolds])
    case neg =>
      refine .inr ⟨hfolds, ⟨(needsQuotes_storedName d name).trans hq, hq⟩, ?_⟩
      rw [storedName, hq, if_neg Bool.false_ne_true, String.toList_ofList]
      exact upperWord_fold d (isPlain_of_not_needsQuotes hq)

theorem nodup_storedNames {names : List String} (h : names.Nodup) :
    (names.map d.storedName).Nodup ↔ names.Pairwise fun a b => ¬d.Clash a b := by
  rw [List.Nodup, List.pairwise_map]
  constructor
  case mp => exact List.Pairwise.imp fun hne hclash => hne (storedName_eq_iff.mpr (.inr hclash))
  case mpr =>
    intro hclash
    refine (h.and hclash).imp fun hab hsame => ?_
    exact (storedName_eq_iff.mp hsame).elim hab.1 hab.2

theorem Clash.name_eq (hd : d ∈ builtins) (h : d.Clash a b) : d.name = "postgres" ∨ d.name = "oracle" := by
  have hfolds : ∀ d ∈ builtins, d.identifierCase ≠ .preserve → d.name = "postgres" ∨ d.name = "oracle" := by decide
  exact hfolds d hd h.folds

end Dialect

namespace Catalog

variable {d : Dialect} {ds : List TableDecl}

-- The commands for all tables are read as these tables, in the same order.
theorem tableTexts_createTable (hd : d ∈ Dialect.builtins) {cx : Context} (hdialect : cx.dialect = d)
    (hcatalog : cx.catalog = ofDecls ds) (hdefault : ∀ t ∈ (ofDecls ds).tables, t.HasExpressions d) {ifNotExists : Bool}
    (h : (List.range (ofDecls ds).tables.length).mapM (fun id =>
      (Statement.schema (.createTable id ifNotExists)).compile cx) = .ok commands) :
    commands.mapM d.tableText? = some ((ofDecls ds).tables.map fun t =>
      ⟨d.storedName t.name, t.columns.map (d.storedName ·.name), SchemaOp.declaredKeys d t⟩) := by
  subst hdialect
  rw [Result.mapM_eq_ok, List.forall₂_iff_get] at h
  obtain ⟨hlength, h⟩ := h
  rw [List.length_range] at hlength
  refine mapM_of_forall₂ (List.forall₂_iff_get.mpr ⟨by simpa using hlength.symm, fun i hi hi' => ?_⟩)
  have hlt : i < (ofDecls ds).tables.length := by omega
  have ht : cx.catalog.table? i = some (ofDecls ds).tables[i] := by
    rw [hcatalog]
    exact List.getElem?_eq_getElem hlt
  have htable : (ofDecls ds).tables[i].WellFormed cx.catalog i := by
    rw [hcatalog]
    exact (wellFormed_ofDecls ds).tables i _ (List.getElem?_eq_getElem hlt)
  have hcompile := h i (by simpa using hlt) hi
  simp only [List.get_eq_getElem, List.getElem_range] at hcompile
  simpa using SchemaOp.tableText?_compile hd ht htable (hdefault _ (List.getElem_mem hlt)) hcompile

-- Names of the catalog stay apart in the database but for those that clash, which only two vendors have, and so do
-- the names that the commands for all tables declare.
theorem storedNames_apart (ds : List TableDecl) (hd : d ∈ Dialect.builtins) :
    (∀ t ∈ (ofDecls ds).tables, ∀ u ∈ (ofDecls ds).tables, t ≠ u →
      (d.storedName t.name = d.storedName u.name ↔ d.Clash t.name u.name)) ∧
    (∀ t ∈ (ofDecls ds).tables, ∀ x ∈ t.columns, ∀ y ∈ t.columns, x ≠ y →
      (d.storedName x.name = d.storedName y.name ↔ d.Clash x.name y.name)) ∧
    (((ofDecls ds).tables.map (d.storedName ·.name)).Nodup ↔
      ((ofDecls ds).tables.map (·.name)).Pairwise fun a b => ¬d.Clash a b) ∧
    (∀ t ∈ (ofDecls ds).tables, (t.columns.map (d.storedName ·.name)).Nodup ↔
      (t.columns.map (·.name)).Pairwise fun a b => ¬d.Clash a b) ∧
    (∀ a b, d.Clash a b → d.name = "postgres" ∨ d.name = "oracle") ∧
    ∀ cx : Context, cx.dialect = d → cx.catalog = ofDecls ds → (∀ t ∈ (ofDecls ds).tables, t.HasExpressions d) →
      ∀ ifNotExists commands, (List.range (ofDecls ds).tables.length).mapM (fun id =>
        (Statement.schema (.createTable id ifNotExists)).compile cx) = .ok commands →
      ∃ texts, commands.mapM d.tableText? = some texts ∧
        ((texts.map (·.name)).Nodup ↔ ((ofDecls ds).tables.map (·.name)).Pairwise fun a b => ¬d.Clash a b) ∧
        ((∀ text ∈ texts, text.columns.Nodup) ↔
          ∀ t ∈ (ofDecls ds).tables, (t.columns.map (·.name)).Pairwise fun a b => ¬d.Clash a b) := by
  have hc := wellFormed_ofDecls ds
  have hnames : ∀ t ∈ (ofDecls ds).tables, (t.columns.map (·.name)).Nodup := by
    intro t ht
    obtain ⟨id, hid⟩ := List.mem_iff_getElem?.mp ht
    exact (hc.tables id t hid).nodup_names
  have htables : ((ofDecls ds).tables.map (d.storedName ·.name)).Nodup ↔
      ((ofDecls ds).tables.map (·.name)).Pairwise fun a b => ¬d.Clash a b := by
    simpa [Function.comp_def] using Dialect.nodup_storedNames (d := d) hc.nodup_names
  have hcolumns : ∀ t ∈ (ofDecls ds).tables, (t.columns.map (d.storedName ·.name)).Nodup ↔
      (t.columns.map (·.name)).Pairwise fun a b => ¬d.Clash a b := by
    intro t ht
    simpa [Function.comp_def] using Dialect.nodup_storedNames (d := d) (hnames t ht)
  refine ⟨fun t ht u hu => Dialect.storedName_eq_iff_clash hc.nodup_names ht hu,
    fun t ht x hx y hy => Dialect.storedName_eq_iff_clash (hnames t ht) hx hy,
    htables, hcolumns, fun a b => Dialect.Clash.name_eq hd, ?_⟩
  intro cx hdialect hcatalog hdefault ifNotExists commands h
  refine ⟨_, tableTexts_createTable hd hdialect hcatalog hdefault h, ?_, ?_⟩
  case refine_1 => simpa [Function.comp_def] using htables
  case refine_2 =>
    rw [List.forall_mem_map]
    exact forall₂_congr hcolumns

-- Quotes keep the one name as it is while the other is folded.
theorem storedNames_apart_of_mixed_case :
    let column (name : String) : ColumnDef := ⟨name, .int .bits32, false, false, false, none⟩
    let table (name : String) (columns : List ColumnDef) : TableDecl := ⟨name, columns, ["id"], [], []⟩
    let ds := [table "people" [column "id", column "Id"], table "People" [column "id"], table "table" [column "id"]]
    let cx : Context := .new (ofDecls ds) .oracle none
    Dialect.oracle ∈ Dialect.builtins ∧
      ((ofDecls ds).tables.map (Dialect.oracle.storedName ·.name)).Nodup ∧
      (ofDecls ds).tables.map (Dialect.oracle.storedName ·.name) = ["PEOPLE", "People", "table"] ∧
      (∀ t ∈ (ofDecls ds).tables, (t.columns.map (Dialect.oracle.storedName ·.name)).Nodup) ∧
      ∃ commands texts, (List.range (ofDecls ds).tables.length).mapM (fun id =>
          (Statement.schema (.createTable id false)).compile cx) = .ok commands ∧
        commands.mapM Dialect.oracle.tableText? = some texts ∧ (texts.map (·.name)).Nodup ∧
        ∀ text ∈ texts, text.columns.Nodup := by
  intro column table ds cx
  have hd : Dialect.oracle ∈ Dialect.builtins := by simp [Dialect.builtins]
  have hnames : (ofDecls ds).tables.map (Dialect.oracle.storedName ·.name) = ["PEOPLE", "People", "table"] := by
    decide +kernel
  have htables : ((ofDecls ds).tables.map (·.name)).Pairwise fun a b => ¬Dialect.oracle.Clash a b := by decide +kernel
  have hcolumns : ∀ t ∈ (ofDecls ds).tables, (t.columns.map (·.name)).Pairwise fun a b => ¬Dialect.oracle.Clash a b := by
    decide +kernel
  have hdefault : ∀ t ∈ (ofDecls ds).tables, t.HasExpressions .oracle := by
    have hnone : ∀ t ∈ (ofDecls ds).tables, ∀ column ∈ t.columns, column.default.isNone = true := by decide +kernel
    intro t ht column hcolumn
    simp [Option.isNone_iff_eq_none.mp (hnone t ht column hcolumn)]
  have hcompiles : ((List.range (ofDecls ds).tables.length).mapM fun id =>
      (Statement.schema (.createTable id false)).compile cx).toOption.isSome = true := by
    decide +kernel
  obtain ⟨commands, hcommands⟩ := Option.isSome_iff_exists.mp hcompiles
  rw [Result.toOption_eq_some] at hcommands
  obtain ⟨-, -, hapart, hapartColumns, -, htexts⟩ := storedNames_apart ds hd
  obtain ⟨texts, hread, hapartTexts, hapartColumnTexts⟩ := htexts cx rfl rfl hdefault false commands hcommands
  exact ⟨hd, hapart.mpr htables, hnames, fun t ht => (hapartColumns t ht).mpr (hcolumns t ht), commands, texts,
    hcommands, hread, hapartTexts.mpr htables, hapartColumnTexts.mpr hcolumns⟩

-- Two tables of the catalog are declared under one name; and what stands for an expression may go on to another column.
theorem storedNames_meet :
    let column (name : String) (default : Option ColumnDefault) : ColumnDef :=
      ⟨name, .int .bits32, false, false, false, default⟩
    let table (name : String) (columns : List ColumnDef) : TableDecl := ⟨name, columns, ["id"], [], []⟩
    let cx (ds : List TableDecl) : Context := .new (.ofDecls ds) .postgres none
    let texts (ds : List TableDecl) : Option (List (String × List String)) := do
      let commands ← ((List.range (ofDecls ds).tables.length).mapM fun id =>
        (Statement.schema (.createTable id false)).compile (cx ds)).toOption
      (commands.mapM Dialect.postgres.tableText?).map (List.map fun text => (text.name, text.columns))
    let people := [table "people" [column "id" none], table "PEOPLE" [column "id" none, column "ID" none]]
    let raw := [table "raw" [column "id" (some (.expression "0, rest INT")), column "rest" none]]
    (ofDecls people).tables.map (·.name) = ["people", "PEOPLE"] ∧
      texts people = some [("people", ["id"]), ("people", ["id", "id"])] ∧
      texts raw = some [("raw", ["id", "rest", "rest"])] := by
  decide +kernel

end Catalog

end PolySql
