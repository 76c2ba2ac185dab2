import PolySql.Proofs.Schema.StoredNames
import PolySql.Proofs.Transaction.Dialogue

namespace PolySql

-- The queries that tell of the table that the database has under a name.
def Dialect.tableQueries (d : Dialect) (stored : String) : List Command :=
  [d.catalog.columns, d.catalog.primaryKey, d.catalog.indices, d.catalog.foreignKeys].map
    (CatalogQueries.forTable · stored)

def TableRows.ofAnswers : List Answer → TableRows
  | [columns, primaryKey, indices, foreignKeys] =>
    ⟨columns.rows, primaryKey.rows, indices.rows, foreignKeys.rows⟩
  | _ => ⟨[], [], [], []⟩

-- What a table's queries tell of it.
def Cells.tableOf (name : String) (replies : Result (List Answer)) : Result TableSpec := do
  Cells.table name (.ofAnswers (← replies))

-- Tables that are looked up one after the other, each by its own queries, up to the first of which the database
-- does not tell: the queries that were asked, and what came of them.
inductive Server.LooksUp (server : Server) (queries : String → List Command) :
    List Request → List String → List Command → Result (List TableSpec) → Prop
  | done : LooksUp server queries before [] [] (.ok [])
  | stopped :
    server.Replies before (queries name) asked replies →
    Cells.tableOf name replies = .error e →
    LooksUp server queries before (name :: rest) asked (.error e)
  | next :
    server.Replies before (queries name) asked replies →
    Cells.tableOf name replies = .ok table →
    LooksUp server queries (before ++ asked.map Command.request) rest asked' r →
    LooksUp server queries before (name :: rest) (asked ++ asked') (r.map (table :: ·))

theorem Cells.tableOf_eq_ok {t : TableSpec} (h : tableOf name replies = .ok t) :
    (∃ answers, replies = .ok answers) ∧ t.name = name := by
  obtain ⟨answers, hreplies, h⟩ := Result.bind_eq_ok.mp h
  refine ⟨⟨answers, hreplies⟩, ?_⟩
  simp only [Cells.table, Result.bind_eq_ok] at h
  obtain ⟨_, _, _, _, _, _, _, _, ⟨⟩⟩ := h
  rfl

namespace Server.LooksUp

variable {server : Server} {queries : String → List Command} {before : List Request} {names : List String}
  {asked : List Command}

theorem isPrefix {r : Result (List TableSpec)} (h : server.LooksUp queries before names asked r) :
    asked <+: names.flatMap queries := by
  induction h
  case done => exact List.prefix_rfl
  case stopped h _ => exact h.isPrefix.trans (List.prefix_append _ _)
  case next hr ht _ ih =>
    obtain ⟨⟨answers, rfl⟩, -⟩ := Cells.tableOf_eq_ok ht
    rw [hr.asked_eq, List.flatMap_cons]
    exact (List.prefix_append_right_inj _).mpr ih

theorem of_ok {tables : List TableSpec} (h : server.LooksUp queries before names asked (.ok tables)) :
    asked = names.flatMap queries ∧ tables.map (·.name) = names := by
  generalize hr : Except.ok tables = r at h
  induction h generalizing tables
  case done =>
    cases hr
    exact ⟨rfl, rfl⟩
  case stopped => nomatch hr
  case next r hreplies ht _ ih =>
    cases r
    case error => nomatch hr
    case ok =>
      cases hr
      obtain ⟨⟨answers, rfl⟩, hname⟩ := Cells.tableOf_eq_ok ht
      have ⟨hasked, hnames⟩ := ih rfl
      exact ⟨by rw [hreplies.asked_eq, hasked, List.flatMap_cons], by rw [List.map_cons, hname, hnames]⟩

end Server.LooksUp

namespace Dialect

variable {d : Dialect}

theorem tableQueries_inj : d.tableQueries a = d.tableQueries b ↔ a = b := by
  simp [tableQueries, CatalogQueries.forTable]

theorem flatMap_tableQueries_eq_iff {f : String → String} {names : List String} :
    names.flatMap (fun name => d.tableQueries (f name)) = names.flatMap d.tableQueries ↔
      ∀ name ∈ names, f name = name := by
  induction names
  case nil => simp
  case cons name rest ih =>
    have hlength : (d.tableQueries (f name)).length = (d.tableQueries name).length := rfl
    rw [List.flatMap_cons, List.flatMap_cons, List.append_eq_append_iff_of_size_eq_left hlength, tableQueries_inj, ih,
      List.forall_mem_cons]

end Dialect

namespace Handle

variable {ρ : Type} {s s₁ : Session ρ} {h : Handle}

theorem exec_tableSpec (hs : s.Ready h) (name : String) :
    let d := s.transaction.settings.dialect
    ∃ asked replies s', s.Asked asked s' ∧ exec (h.tableSpec name) s = (Cells.tableOf name replies, s') ∧
      s.world.server.Replies s.world.requests (d.tableQueries (d.storedName name)) asked replies := by
  intro d
  obtain ⟨asked, replies, s', ha, he, hreplies⟩ := Tx.exec_mapM_runQuery hs (d.tableQueries (d.storedName name))
  refine ⟨asked, replies, s', ha, ?_, hreplies⟩
  have hqueries : h.tableSpec name = (do
      let d := (← Tx.context).dialect
      let answers ← (d.tableQueries (d.storedName name)).mapM h.runQuery
      Tx.ofResult (Cells.table name (.ofAnswers answers)) : Tx ρ TableSpec) := by
    simp [tableSpec, Dialect.tableQueries, Dialect.tableQuery, TableRows.ofAnswers]
  rw [hqueries, exec_bind_of_ok Tx.exec_context]
  dsimp only [Context.new]
  rw [exec_bind, he]
  cases replies <;> rfl

theorem exec_tableSpecs (hs : s.Ready h) (names : List String) :
    let d := s.transaction.settings.dialect
    ∃ asked r s', s.Asked asked s' ∧ exec (h.tableSpecs names) s = (r, s') ∧
      s.world.server.LooksUp (fun name => d.tableQueries (d.storedName name)) s.world.requests names asked r := by
  intro d
  induction names generalizing s
  case nil => exact ⟨[], .ok [], s, .refl s, rfl, .done⟩
  case cons name rest ih =>
    obtain ⟨asked, replies, s₁, ha₁, h₁, hreplies⟩ := exec_tableSpec hs name
    rw [tableSpecs]
    cases ht : Cells.tableOf name replies
    case error e =>
      rw [ht] at h₁
      exact ⟨asked, _, s₁, ha₁, exec_bind_of_error h₁, .stopped hreplies ht⟩
    case ok t =>
      rw [ht] at h₁
      obtain ⟨asked', r, s₂, ha₂, h₂, hlooks⟩ := ih (ha₁.ready hs)
      rw [ha₁.server, ha₁.requests, ha₁.transaction] at hlooks
      refine ⟨asked ++ asked', r.map (t :: ·), s₂, ha₁.trans ha₂, ?_, .next hreplies ht hlooks⟩
      rw [exec_bind_of_ok h₁, exec_bind, h₂]
      cases r <;> rfl

theorem ready_of_tableNames (hn : exec h.tableNames s = (.ok names, s₁)) : s₁.Ready h := by
  rw [tableNames, exec_bind_of_ok Tx.exec_context] at hn
  dsimp only [Context.new] at hn
  rcases hq : exec (h.runQuery ⟨s.transaction.settings.dialect.catalog.tableNames, []⟩) s with ⟨e | a, s'⟩
  case error =>
    rw [exec_bind_of_error hq] at hn
    nomatch hn
  case ok =>
    rw [exec_bind_of_ok hq, Tx.exec_ofResult] at hn
    obtain ⟨-, rfl⟩ := Prod.mk.inj hn
    exact Tx.ready_of_runQuery hq

-- The database is asked, one reported table after the other, for what it has under the name that the reported one
-- would be stored as. That is the reported name itself if it takes quotes or is in the vendor's case: always on a
-- vendor that keeps the case, and for all tables that were named through it.
theorem introspect_asked (hn : exec h.tableNames s = (.ok names, s₁)) :
    let d := s₁.transaction.settings.dialect
    let queries (name : String) := d.tableQueries (d.storedName name)
    ∃ asked r s₂, exec h.introspect s = (r.map DatabaseSpec.mk, s₂) ∧
      s₂.world.requests = s₁.world.requests ++ asked.map Command.request ∧
      s₁.world.server.LooksUp queries s₁.world.requests names asked r ∧
      asked <+: names.flatMap queries ∧
      (∀ tables, r = .ok tables → asked = names.flatMap queries ∧ tables.map (·.name) = names) ∧
      (names.flatMap queries = names.flatMap d.tableQueries ↔
        ∀ name ∈ names, d.needsQuotes name = true ∨ d.fold name.toList = name.toList) ∧
      (d.identifierCase = .preserve ∨ (∀ name ∈ names, ∃ own, name = d.storedName own) →
        names.flatMap queries = names.flatMap d.tableQueries) := by
  intro d queries
  obtain ⟨asked, r, s₂, ha, he, hlooks⟩ := exec_tableSpecs (ready_of_tableNames hn) names
  refine ⟨asked, r, s₂, ?_, ha.requests, hlooks, hlooks.isPrefix, ?_, ?_, ?_⟩
  case refine_1 =>
    rw [introspect, exec_bind_of_ok hn, exec_bind, he]
    cases r <;> rfl
  case refine_2 =>
    rintro tables rfl
    exact hlooks.of_ok
  case refine_3 =>
    rw [Dialect.flatMap_tableQueries_eq_iff]
    exact forall₂_congr fun name _ => Dialect.storedName_eq_self
  case refine_4 =>
    rw [Dialect.flatMap_tableQueries_eq_iff]
    rintro (hpreserve | hown) name hmem
    case inl => exact Dialect.storedName_eq_self.mpr (.inr (by simp [Dialect.fold, hpreserve]))
    case inr =>
      obtain ⟨own, rfl⟩ := hown name hmem
      exact Dialect.storedName_storedName own

-- Names in the vendor's case and names that take quotes are looked up as they are.
theorem introspect_asked_of_mixed_case :
    let settings : TransactionSettings := .standard .empty .oracle .standard
    let server : Server := ⟨"Oracle", fun _ request => match request with
      | .query _ [] => .ok ⟨0, ["TABLE_NAME"], [[.text "PEOPLE"], [.text "People"]]⟩
      | _ => .ok .none⟩
    let s : Session Unit := ⟨.new settings 0, .new server ()⟩
    let h : Handle := ⟨0, true⟩
    let s₁ := (exec h.tableNames s).2
    exec h.tableNames s = (.ok ["PEOPLE", "People"], s₁) ∧
      (exec h.introspect s).1.toOption = some ⟨[⟨"PEOPLE", [], [], [], []⟩, ⟨"People", [], [], [], []⟩]⟩ ∧
      (exec h.introspect s).2.world.requests = s₁.world.requests ++
        (["PEOPLE", "People"].flatMap Dialect.oracle.tableQueries).map Command.request := by
  intro settings server s h s₁
  have hn : exec h.tableNames s = (.ok ["PEOPLE", "People"], s₁) := rfl
  have hspec : (exec h.introspect s).1.toOption =
    some ⟨[⟨"PEOPLE", [], [], [], []⟩, ⟨"People", [], [], [], []⟩]⟩ := by decide +kernel
  have hnames : ∀ name ∈ ["PEOPLE", "People"],
      Dialect.oracle.needsQuotes name = true ∨ Dialect.oracle.fold name.toList = name.toList := by decide +kernel
  obtain ⟨asked, r, s₂, he, hrequests, -, -, hok, hiff, -⟩ := introspect_asked hn
  rw [he] at hspec ⊢
  cases r
  case error => nomatch hspec
  case ok tables =>
    obtain ⟨rfl, -⟩ := hok tables rfl
    exact ⟨hn, hspec, hrequests.trans (by rw [hiff.mpr hnames]; rfl)⟩

-- A table in capital letters is looked for in small ones, and so nothing is told of it.
theorem introspect_misses_capitals :
    let settings : TransactionSettings := .standard .empty .postgres .standard
    let catalog := settings.dialect.catalog
    let server : Server := ⟨"PostgreSQL", fun _ request => match request with
      | .query _ [] => .ok ⟨0, ["table_name"], [[.text "PEOPLE"]]⟩
      | .query sql [.text "PEOPLE"] =>
        if sql = catalog.primaryKey then .ok ⟨0, ["column_name"], [[.text "id"]]⟩ else .ok .none
      | _ => .ok .none⟩
    let s : Session Unit := ⟨.new settings 0, .new server ()⟩
    let lookups (s : Session Unit) : List (String × String) := s.world.requests.filterMap fun
      | .query sql [.text name] => some (sql, name)
      | _ => none
    ∀ shared, let h : Handle := ⟨0, shared⟩
      let inCapitals := (exec (h.runQuery (CatalogQueries.forTable catalog.primaryKey "PEOPLE")) s).1
      (exec h.tableNames s).1.toOption = some ["PEOPLE"] ∧
        (inCapitals >>= (Cells.primaryKey ·.rows)).toOption = some ["id"] ∧
        (exec h.introspect s).1.toOption = some ⟨[⟨"PEOPLE", [], [], [], []⟩]⟩ ∧
        lookups (exec h.introspect s).2 = [(catalog.columns, "people"), (catalog.primaryKey, "people"),
          (catalog.indices, "people"), (catalog.foreignKeys, "people")] := by
  decide +kernel

end Handle

end PolySql
