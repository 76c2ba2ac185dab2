import PolySql.Proofs.Schema.Ordering

namespace PolySql

-- A table of a database: its name and the tables that its foreign keys refer to.
structure StoredTable where
  name : String
  references : List String
  deriving DecidableEq

inductive Refusal
  | taken (name : String)
  | missing (name : String)
  | referenced (name : String)
  deriving DecidableEq

-- A database that keeps every reference at a table that exists.
abbrev TableStore := List StoredTable

namespace TableStore

def has (store : TableStore) (name : String) : Bool :=
  store.any (·.name == name)

def create (store : TableStore) (t : StoredTable) (ifNotExists : Bool) : Except Refusal TableStore :=
  if store.has t.name then
    if ifNotExists then .ok store else .error (.taken t.name)
  else match t.references.find? fun name => name != t.name && !store.has name with
    | some name => .error (.missing name)
    | none => .ok (store ++ [t])

def drop (store : TableStore) (name : String) (ifExists : Bool) : Except Refusal TableStore :=
  if !store.has name then
    if ifExists then .ok store else .error (.missing name)
  else if store.any fun t => t.name != name && t.references.contains name then .error (.referenced name)
  else .ok (store.filter (·.name != name))

-- An index changes no table, but it is one of a table that exists.
def index (store : TableStore) (name : String) : Except Refusal TableStore :=
  if store.has name then .ok store else .error (.missing name)

end TableStore

def Catalog.stored (c : Catalog) (t : TableDef) : StoredTable :=
  ⟨t.name, t.foreignKeys.map fun key => c.tableName key.foreignTable⟩

def TableStore.execute (c : Catalog) (store : TableStore) : SchemaOp → Except Refusal TableStore
  | .createTable id ifNotExists =>
    match c.table? id with
    | some t => store.create (c.stored t) ifNotExists
    | none => .error (.missing (c.tableName id))
  | .dropTable id ifExists => store.drop (c.tableName id) ifExists
  | .createIndex id _ _ => store.index (c.tableName id)

namespace Catalog.WellFormed

variable {c : Catalog} {ts : List TableDef} {t : TableDef}

theorem mem_of_lt {id : TableId} (h : ts <+: c.tables) (hid : id < ts.length) : c.tableName id ∈ ts.map (·.name) := by
  rw [tableName_of_isPrefix (c := ⟨ts⟩) h hid, tableName_of_table? (List.getElem?_eq_getElem hid)]
  exact List.mem_map_of_mem (List.getElem_mem hid)

-- The tables of the catalog before one of them, and that table.
section

variable (hc : c.WellFormed) (h : ts ++ [t] <+: c.tables)

include hc h in
theorem name_notMem : t.name ∉ ts.map (·.name) := by
  have hnodup := hc.nodup_names.sublist (h.sublist.map _)
  rw [List.map_append, List.nodup_append] at hnodup
  exact fun hmem => hnodup.2.2 _ hmem _ (List.mem_singleton_self _) rfl

include hc h in
theorem mem_references {name : String} (hname : name ∈ (c.stored t).references) :
    name = t.name ∨ name ∈ ts.map (·.name) := by
  obtain ⟨key, hkey, rfl⟩ := List.mem_map.mp hname
  have ht := table?_concat h
  rcases Nat.lt_or_eq_of_le ((hc.tables _ t ht).foreignKeys key hkey).earlier with hlt | heq
  case inl => exact .inr (mem_of_lt ((List.prefix_append _ _).trans h) hlt)
  case inr => exact .inl (by rw [heq, tableName_of_table? ht])

include hc h in
theorem not_mem_references {s : TableDef} (hs : s ∈ ts) : t.name ∉ (c.stored s).references := by
  intro hname
  obtain ⟨before, after, rfl⟩ := List.append_of_mem hs
  have hbefore : before ++ [s] <+: before ++ s :: after := ⟨after, by simp⟩
  refine hc.name_notMem h ?_
  rcases hc.mem_references ((hbefore.trans (List.prefix_append _ _)).trans h) hname with heq | hmem
  case inl => simp [heq]
  case inr =>
    rw [List.map_append]
    exact List.mem_append_left _ hmem

end

end Catalog.WellFormed

namespace TableStore

variable {c : Catalog} {ts : List TableDef} {t : TableDef} {name : String} {ifNotExists ifExists : Bool}

theorem has_stored : has (ts.map c.stored) name = true ↔ name ∈ ts.map (·.name) := by
  simp [has, Catalog.stored]

section

variable (hc : c.WellFormed) (h : ts ++ [t] <+: c.tables)

include hc h in
theorem create_stored : create (ts.map c.stored) (c.stored t) ifNotExists = .ok ((ts ++ [t]).map c.stored) := by
  have hnew : ¬has (ts.map c.stored) (c.stored t).name = true := by
    rw [has_stored]
    exact hc.name_notMem h
  have hknown : (c.stored t).references.find? (fun name => name != (c.stored t).name && !has (ts.map c.stored) name) =
      none := by
    rw [List.find?_eq_none]
    intro name hname
    rcases hc.mem_references h hname with rfl | hmem
    case inl => simp [Catalog.stored]
    case inr => simp [has_stored.mpr hmem]
  rw [create, if_neg hnew, hknown, List.map_append]
  rfl

include hc h in
theorem drop_stored : drop ((ts ++ [t]).map c.stored) t.name ifExists = .ok (ts.map c.stored) := by
  have hhas : has ((ts ++ [t]).map c.stored) t.name = true := has_stored.mpr (by simp)
  have hfree : ¬((ts ++ [t]).map c.stored).any (fun s => s.name != t.name && s.references.contains t.name) = true := by
    rw [List.map_append, List.any_append, Bool.or_eq_true, not_or]
    refine ⟨?_, by simp [Catalog.stored]⟩
    rw [List.any_eq_true]
    rintro ⟨_, hmem, href⟩
    obtain ⟨s, hs, rfl⟩ := List.mem_map.mp hmem
    exact hc.not_mem_references h hs (by simpa using (Bool.and_eq_true_iff.mp href).2)
  have hkept : (ts.map c.stored).filter (·.name != t.name) = ts.map c.stored := by
    rw [List.filter_eq_self]
    intro _ hmem
    obtain ⟨s, hs, rfl⟩ := List.mem_map.mp hmem
    rw [bne_iff_ne]
    intro heq
    exact hc.name_notMem h (heq ▸ List.mem_map_of_mem hs)
  rw [drop, hhas, Bool.not_true, if_neg Bool.false_ne_true, if_neg hfree, List.map_append, List.filter_append, hkept]
  simp [Catalog.stored]

include hc h in
theorem execute_createTableAndIndices :
    (SchemaOp.createTableAndIndices ifNotExists ts.length t).foldlM (execute c) (ts.map c.stored) =
      .ok ((ts ++ [t]).map c.stored) := by
  have ht := Catalog.table?_concat h
  have hindices (ops : List SchemaOp) (hops : ∀ op ∈ ops, ∃ i, op = .createIndex ts.length i ifNotExists) :
      ops.foldlM (execute c) ((ts ++ [t]).map c.stored) = .ok ((ts ++ [t]).map c.stored) := by
    induction ops
    case nil => rfl
    case cons op ops ih =>
      rw [List.forall_mem_cons] at hops
      obtain ⟨⟨i, rfl⟩, hops⟩ := hops
      have hhas : has ((ts ++ [t]).map c.stored) (c.tableName ts.length) = true :=
        has_stored.mpr (by simp [Catalog.tableName_of_table? ht])
      rw [List.foldlM_cons, execute, index, if_pos hhas]
      exact ih hops
  rw [SchemaOp.createTableAndIndices, List.foldlM_cons, execute, ht]
  simp only [create_stored hc h]
  refine hindices _ fun op hop => ?_
  obtain ⟨i, -, rfl⟩ := List.mem_map.mp hop
  exact ⟨i, rfl⟩

end

theorem execute_createAll (hc : c.WellFormed) (h : ts <+: c.tables) (ifNotExists : Bool) :
    (SchemaOp.createAll ⟨ts⟩ ifNotExists).foldlM (execute c) [] = .ok (ts.map c.stored) := by
  induction ts using List.reverseRecOn
  case nil => rfl
  case append_singleton ts t ih =>
    rw [SchemaOp.createAll_concat, List.foldlM_append, ih ((List.prefix_append _ _).trans h)]
    exact execute_createTableAndIndices hc h

theorem execute_dropAll (hc : c.WellFormed) (h : ts <+: c.tables) (ifExists : Bool) :
    (SchemaOp.dropAll ⟨ts⟩ ifExists).foldlM (execute c) (ts.map c.stored) = .ok [] := by
  induction ts using List.reverseRecOn
  case nil => rfl
  case append_singleton ts t ih =>
    have hname := Catalog.tableName_of_table? (Catalog.table?_concat h)
    rw [SchemaOp.dropAll_concat, List.foldlM_cons, execute, hname, drop_stored hc h]
    exact ih ((List.prefix_append _ _).trans h)

end TableStore

-- Every foreign key finds its table, when the tables are made and until they are dropped.
theorem SchemaOp.createAll_dropAll (ds : List TableDecl) (ifNotExists ifExists : Bool) :
    CreatesInOrder (.ofDecls ds) ifNotExists (createAll (.ofDecls ds) ifNotExists) ∧
      DropsInOrder (.ofDecls ds) ifExists (dropAll (.ofDecls ds) ifExists) ∧
      (createAll (.ofDecls ds) ifNotExists).foldlM (TableStore.execute (.ofDecls ds)) [] =
        .ok ((Catalog.ofDecls ds).tables.map (Catalog.ofDecls ds).stored) ∧
      (dropAll (.ofDecls ds) ifExists).foldlM (TableStore.execute (.ofDecls ds))
        ((Catalog.ofDecls ds).tables.map (Catalog.ofDecls ds).stored) = .ok [] := by
  have hc := Catalog.wellFormed_ofDecls ds
  exact ⟨createsInOrder hc ifNotExists, dropsInOrder hc ifExists,
    TableStore.execute_createAll hc List.prefix_rfl ifNotExists, TableStore.execute_dropAll hc List.prefix_rfl ifExists⟩

end PolySql
