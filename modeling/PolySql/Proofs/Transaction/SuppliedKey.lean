import PolySql.Proofs.Batch.Rows
import PolySql.Proofs.Column.Decoding
import PolySql.Proofs.Statement.Assignment
import PolySql.Proofs.Transaction.Failures

namespace PolySql

open Fragment Tx

theorem Value.Agrees.refl (v : Value) : v.Agrees v := by
  cases v
  case decimal => exact ⟨beq_self_eq_true _, rfl⟩
  all_goals rfl

theorem Value.Agrees.kind?_eq {v w : Value} (h : w.Agrees v) : w.kind? = v.kind? := by
  cases w
  case decimal => cases v <;> first | rfl | cases h
  all_goals cases h; rfl

namespace ColumnType

variable {t : ColumnType} {d : Dialect} {v w x : Value}

theorem temporal_of_loses (hv : ∀ k ∈ v.kind?, k = t.kind) (h : Loses d v) : t.isTemporal = true := by
  cases v
  case timestampTz =>
    cases t
    case date | time | timestamp => rfl
    all_goals cases hv _ rfl
  all_goals cases h

-- A stored value is read back as itself exactly if it is of the column's kind and is not lost.
theorem decodes_iff (h : t.encode d v = .ok x) :
    (∃ w, t.decode x = .ok w ∧ w.Agrees v) ↔ (∀ k ∈ v.kind?, k = t.kind) ∧ ¬Loses d v := by
  have hencode : t.encode? d v = some x := by
    rw [encode] at h
    split at h
    case h_1 hx => rw [hx, Except.ok.inj h]
    case h_2 => cases h
  constructor
  case mp =>
    rintro ⟨w, hw, hagrees⟩
    have hdecode : t.decode? x = some w := by
      rw [decode] at hw
      split at hw
      case h_1 hx => rw [hx, Except.ok.inj hw]
      case h_2 => cases hw
    have hkind : ∀ k ∈ v.kind?, k = t.kind := hagrees.kind?_eq ▸ kind_of_decode? hdecode
    refine ⟨hkind, fun hlost => ?_⟩
    obtain ⟨y, hy, hnone⟩ := exists_lost (temporal_of_loses hkind hlost) hkind hlost
    cases hencode.symm.trans hy
    cases hdecode.symm.trans hnone
  case mpr =>
    rintro ⟨hkind, hkept⟩
    cases ht : t.isTemporal
    case true =>
      obtain ⟨y, hy, hdecode⟩ := exists_stored ht hkind hkept
      cases hencode.symm.trans hy
      exact ⟨v, decode_of_some hdecode, .refl v⟩
    case false =>
      have hkeeps : t.Keeps d v := keeps_of_kind ht hkind
      have hn : ¬t.Refuses v := by
        intro hr
        cases hencode.symm.trans (hkeeps.refused hr)
      obtain ⟨y, w, hy, hdecode, hagrees, -⟩ := hkeeps.stored hn
      cases hencode.symm.trans hy
      exact ⟨w, decode_of_some hdecode, hagrees⟩

end ColumnType

namespace Insert

variable {c : Catalog} {cx : Context} {table : TableId} {columns : List ColumnId} {values : List (ColumnId × Column)}
  {i : Insert} {key : ColumnId} {v : Value}

-- The row of an insert starts with the values that it was made from.
theorem exists_row_of_new (h : (Insert.new c table values draws).1 = .ok i) :
    (values.map (·.1)).Nodup ∧ ∃ row, i.rows = [row] ∧ values <+: i.columns.zip row := by
  have hn := not_faulty_of_multi h
  rw [Insert.new, multi_of_not_faulty hn] at h
  cases h
  refine ⟨Classical.not_not.mp fun hr => hn (.repeated hr), _, rfl, ?_⟩
  simp only [completedRow]
  rw [List.zip_append (by simp), List.zip_map', List.map_id']
  exact List.prefix_append _ _

theorem mem_params_inserting {cells : List (List Fragment)} {fs : List Fragment} {f : Fragment} (tail : Fragment)
    (hfs : fs ∈ cells) (hf : f ∈ fs) (hv : v ∈ f.params) : v ∈ (inserting cx table columns cells tail).params := by
  simp only [inserting, params_append, params_parenthesised, params_joined, List.flatMap_map, List.mem_append,
    List.mem_flatMap]
  exact .inl (.inr (.inr ⟨fs, hfs, f, hf, hv⟩))

-- A value of the row is bound as its column stores it.
theorem mem_params_of_render {f : Fragment} {row : List Column} (hi : i.render cx = .ok f) (hrow : row ∈ i.rows)
    (hmem : (key, .param v) ∈ i.columns.zip row) (ht : cx.catalog.columnType? key = some t) :
    ∃ x, t.encode cx.dialect v = .ok x ∧ x ∈ f.params := by
  have hcolumns : i.columns ≠ [] := List.ne_nil_of_mem (List.of_mem_zip hmem).1
  obtain ⟨cells, tail, hcells, rfl⟩ := cells_of_render hi hcolumns
  obtain ⟨fs, hfs, hrender⟩ := exists_of_mem_forall₂ hcells hrow
  obtain ⟨g, hg, hcell⟩ := exists_of_mem_forall₂ hrender hmem
  rw [Column.render, ht] at hcell
  obtain ⟨x, hx, ⟨⟩⟩ := Result.bind_eq_ok.mp hcell
  exact ⟨x, hx, mem_params_inserting tail hfs hg (List.mem_singleton_self x)⟩

end Insert

namespace InsertPlan

variable {c : Catalog} {cx : Context} {p : InsertPlan} {table : TableId} {values : List (ColumnId × Column)}
  {key : ColumnId} {v : Value}

-- The plan of an insert that has the value for the key among its own.
structure Gives (p : InsertPlan) (c : Catalog) (key : ColumnId) (v : Value) : Prop where
  source : p.source = .given v
  columnType? : c.columnType? key = some p.keyType
  cell : ∃ row ∈ p.insert.rows, (key, .param v) ∈ p.insert.columns.zip row

theorem gives_of_withKey (hi : (Insert.new cx.catalog table values draws).1 = .ok i)
    (hmem : (key, .param v) ∈ values) (h : withKey cx key i = .ok p) : p.Gives cx.catalog key v := by
  obtain ⟨hnodup, row, hrows, added, hadded⟩ := Insert.exists_row_of_new hi
  have hlookup : (i.columns.zip row).lookup key = some (.param v) := by
    rw [← hadded, List.lookup_append, (mem_iff_lookup hnodup).mp hmem, Option.some_or]
  have hsource : keySource cx i key = .ok (.given v) := by
    simp only [keySource, hrows, List.headD_cons, hlookup]
  obtain ⟨_, hs, h⟩ := Result.bind_eq_ok.mp h
  cases hsource.symm.trans hs
  dsimp only at h
  split at h
  case h_2 => nomatch h
  case h_1 t ht =>
    cases h
    exact ⟨rfl, ht, row, hrows ▸ .head _, hadded ▸ List.mem_append_left _ hmem⟩

-- What an insert that is done reports for a key that was given.
inductive Reports (type : HostType) (table : TableId) (v : Value) : Result EntityId → Prop
  | null : v = .null → Reports type table v (.error (.compilation "An entity id cannot be resolved to NULL"))
  | mismatch : v ≠ .null → type.convert? v = none → Reports type table v (.error (v.mismatch type.shortName))
  | resolved : v ≠ .null → (type.convert? v).isSome → Reports type table v (.ok (.resolved table v))

theorem reports_resolve (c : Catalog) (type : HostType) (table : TableId) (v : Value) :
    Reports type table v (resolve c type table v) := by
  by_cases hv : v = .null
  case pos =>
    subst hv
    exact .null rfl
  case neg =>
    have hnull : v.isNull = false := by cases v <;> first | rfl | exact absurd rfl hv
    have hresolve : (EntityId.new table).resolve v = .ok (.resolved table v) := by simp [EntityId.resolve, hnull]; rfl
    have hvalue : resolve c type table v = do
        let _ ← type.convert v
        return .resolved table v := by
      rw [resolve, hresolve]
      rfl
    rw [hvalue, HostType.convert]
    cases hconvert : type.convert? v
    case none => exact .mismatch hv hconvert
    case some => exact .resolved hv (by rw [hconvert, Option.isSome_some])

end InsertPlan

theorem Session.Alike.requests {ρ : Type} {s s' : Session ρ} (h : s.Alike s') :
    s'.world.requests = s.world.requests := by
  rw [World.requests, h.trace, ← World.requests]

namespace Tx

variable {ρ : Type} {s s' : Session ρ} {table : TableId} {values : List (ColumnId × Column)} {key : ColumnId}
  {v : Value} {p : InsertPlan}

theorem exec_compile (st : Statement) : exec (Handle.compile st) s = (st.compile (.new s.transaction.settings.catalog
    s.transaction.settings.dialect s.world.snapshot.version), s) :=
  rfl

theorem exec_draft {α : Type} (f : Draft α) :
    exec (draft f) s = ((f s.world.draws).1, { s with world := { s.world with draws := (f s.world.draws).2 } }) :=
  rfl

-- The configuration is not asked for a key that is there.
theorem gives_of_planInsert (hkey : InsertPlan.key s.transaction.settings.catalog table = .ok key)
    (hmem : (key, .param v) ∈ values) (hx : exec (planInsert table values) s = (.ok p, s')) :
    p.Gives s.transaction.settings.catalog key v := by
  have hgiven : values.any (·.1 == key) = true := List.any_eq_true.mpr ⟨_, hmem, beq_self_eq_true key⟩
  simp only [planInsert, exec_bind, exec_context, exec_ofResult, Context.new, hkey, hgiven, if_true, exec_pure,
    Option.toList_none, List.map_nil, List.append_nil, exec_draft] at hx
  split at hx
  case h_2 => cases hx
  case h_1 i _ hi =>
    rw [Prod.mk.injEq] at hi hx
    exact InsertPlan.gives_of_withKey hi.1 hmem hx.1

end Tx

namespace Handle

variable {ρ : Type} {s s₁ s' : Session ρ} {h : Handle} {type : HostType} {table : TableId}
  {values : List (ColumnId × Column)} {key : ColumnId} {v : Value} {p : InsertPlan}

-- With the key in the plan, the statement runs, and then its outcome is made from the plan alone.
theorem exec_insert_of_given (hplan : exec (planInsert table values) s = (.ok p, s₁)) (hsource : p.source = .given v)
    (hcompile : exec (compile (.insert p.insert)) s₁ = (.ok command, s₁)) :
    exec (h.insert type table values) s = exec (do
      let _ ← h.runExecute command
      ofResult (InsertPlan.resolve (← context).catalog type table v)) s₁ := by
  rw [Handle.insert, exec_bind_of_ok hplan, exec_bind_of_ok hcompile, insertedKey, hsource]
  simp only [exec_bind]
  rcases exec (h.runExecute command) s₁ with ⟨e | n, s₂⟩ <;> rfl

-- An insert with a value for the key has failed before anything was sent, or by the server and the transaction's
-- state. Otherwise it was executed with the stored key. What is reported then depends on the value that was given and
-- on the type that was asked for, and not on the column.
theorem insert_of_supplied_key (hkey : InsertPlan.key s.transaction.settings.catalog table = .ok key)
    (hmem : (key, .param v) ∈ values) (hx : exec (h.insert type table values) s = (r, s')) :
    (∃ e, r = .error e ∧ s'.world.requests = s.world.requests) ∨
    (∃ e, r = .error e ∧ e.Operational s.world.server) ∨
    ∃ t x sql params sent, s.transaction.settings.catalog.columnType? key = some t ∧
      t.encode s.transaction.settings.dialect v = .ok x ∧ x ∈ params ∧
      s'.world.requests = s.world.requests ++ sent ++ [.execute sql params] ∧
      InsertPlan.Reports type table v r ∧
      ((∃ w, t.decode x = .ok w ∧ w.Agrees v) ↔
        (∀ k ∈ v.kind?, k = t.kind) ∧ ¬ColumnType.Loses s.transaction.settings.dialect v) := by
  have halike := hidden_planInsert table values s
  rcases hplan : exec (planInsert table values) s with ⟨e | p, s₁⟩
  all_goals rw [hplan] at halike
  case error =>
    rw [Handle.insert, exec_bind_of_error hplan] at hx
    cases hx
    exact .inl ⟨e, rfl, halike.requests⟩
  case ok =>
    obtain ⟨hsource, hcolumn, row, hrow, hcell⟩ := gives_of_planInsert hkey hmem hplan
    have hcompile := exec_compile (s := s₁) (.insert p.insert)
    rcases hc : (Statement.insert p.insert).compile (.new s₁.transaction.settings.catalog
      s₁.transaction.settings.dialect s₁.world.snapshot.version) with e | command
    all_goals rw [hc] at hcompile
    case error =>
      rw [Handle.insert, exec_bind_of_ok hplan, exec_bind_of_error hcompile] at hx
      cases hx
      exact .inl ⟨e, rfl, halike.requests⟩
    case ok =>
      rw [exec_insert_of_given hplan hsource hcompile] at hx
      rcases hrun : exec (h.runExecute command) s₁ with ⟨e | n, s₂⟩
      case error =>
        rw [exec_bind_of_error hrun] at hx
        cases hx
        have hoperational := (Operates.runExecute s₁ h command).error (congrArg Prod.fst hrun)
        exact .inr (.inl ⟨e, rfl, halike.server ▸ hoperational⟩)
      case ok =>
        rw [exec_bind_of_ok hrun] at hx
        cases hx
        obtain ⟨sent, hsent⟩ := requests_of_runExecute hrun
        obtain ⟨f, hf, hcommand⟩ := Result.bind_eq_ok.mp hc
        obtain ⟨rfl, -⟩ := Context.of_command hcommand
        rw [halike.transaction] at hf
        obtain ⟨x, hencode, hparam⟩ := Insert.mem_params_of_render hf hrow hcell hcolumn
        exact .inr (.inr ⟨p.keyType, x, _, _, sent, hcolumn, hencode, hparam, halike.requests ▸ hsent,
          InsertPlan.reports_resolve _ type table v, ColumnType.decodes_iff hencode⟩)

def venues : Catalog :=
  ⟨[⟨"venues", [⟨"id", .uuid, false, false, false, none⟩, ⟨"name", .string (some 100), false, false, false, none⟩],
    [0], [], []⟩]⟩

-- The first transaction of a server that has no objections.
def fresh : Session Unit :=
  ⟨.new (.standard venues .postgres .standard) 0, .new ⟨"PostgreSQL", fun _ _ => .ok .none⟩ ()⟩

def hall (key : Value) : List (ColumnId × Column) :=
  [(⟨0, 0⟩, .param key), (⟨0, 1⟩, .param (.text "Hall"))]

theorem insert_of_uuid_key :
    let v : Value := .uuid ⟨List.replicate 16 7, rfl⟩
    let h : Handle := ⟨0, false⟩
    InsertPlan.key fresh.transaction.settings.catalog 0 = .ok ⟨0, 0⟩ ∧ (⟨0, 0⟩, .param v) ∈ hall v ∧
    ∃ s', exec (h.insert .uuid 0 (hall v)) fresh = (.ok (.resolved 0 v), s') ∧
      ∃ t x sql params sent, venues.columnType? ⟨0, 0⟩ = some t ∧ t.encode .postgres v = .ok x ∧ x ∈ params ∧
        s'.world.requests = sent ++ [.execute sql params] ∧ ∃ w, t.decode x = .ok w ∧ w.Agrees v := by
  intro v h
  have hkey : InsertPlan.key fresh.transaction.settings.catalog 0 = .ok ⟨0, 0⟩ := rfl
  have hmem : (⟨0, 0⟩, .param v) ∈ hall v := .head _
  obtain ⟨s', hx⟩ : ∃ s', exec (h.insert .uuid 0 (hall v)) fresh = (.ok (.resolved 0 v), s') := ⟨_, rfl⟩
  refine ⟨hkey, hmem, s', hx, ?_⟩
  rcases insert_of_supplied_key hkey hmem hx with ⟨_, he, -⟩ | ⟨_, he, -⟩ | hinserted
  case inl => nomatch he
  case inr.inl => nomatch he
  case inr.inr =>
    obtain ⟨t, x, sql, params, sent, ht, hencode, hparam, hrequests, -, hdecode⟩ := hinserted
    cases ht
    exact ⟨_, x, sql, params, sent, rfl, hencode, hparam, hrequests, hdecode.mpr ⟨by rintro _ ⟨⟩; rfl, nofun⟩⟩

-- The column takes the text of a key, and only after the row is there the text turns out not to be a UUID.
theorem inserted_before_mismatch :
    let v : Value := .text "67e5504410b1426f9247bb680e5fe0c8"
    let x := exec ((Handle.mk 0 false).insert .uuid 0 (hall v)) fresh
    let sent : Request → String × List Kind
      | .execute sql params => (sql, params.filterMap Value.kind?)
      | _ => ("", [])
    x.1 = .error (v.mismatch "Uuid") ∧ ¬(v.mismatch "Uuid").Operational fresh.world.server ∧
      x.2.world.requests.map sent =
        [("BEGIN", []), ("INSERT INTO venues (id, name) VALUES ($1, $2)", [.uuid, .text])] := by
  intro v x sent
  refine ⟨rfl, ?_, by decide +kernel⟩
  rintro (he | he)
  case answered => nomatch he
  case refused => nomatch he

end Handle

end PolySql
