import Mathlib.Data.List.Induction
import PolySql.Proofs.Catalog.Growth
import PolySql.Schema.Op

namespace PolySql

namespace SchemaOp

-- The tables, other than the one that an operation makes, that have to exist for it.
inductive Needs (c : Catalog) : SchemaOp → TableId → Prop
  | index {id i ifNotExists} : Needs c (createIndex id i ifNotExists) id
  | reference {id t key ifNotExists} (ht : c.table? id = some t) (hkey : key ∈ t.foreignKeys)
    (hne : key.foreignTable ≠ id) : Needs c (createTable id ifNotExists) key.foreignTable

structure CreatesInOrder (c : Catalog) (ifNotExists : Bool) (ops : List SchemaOp) : Prop where
  nodup : ops.Nodup
  mem_iff : ∀ op, op ∈ ops ↔ ∃ id t, c.table? id = some t ∧
    (op = createTable id ifNotExists ∨ ∃ i < t.indices.length, op = createIndex id i ifNotExists)
  ordered : ∀ before op after, ops = before ++ op :: after → ∀ id, op.Needs c id → createTable id ifNotExists ∈ before

structure DropsInOrder (c : Catalog) (ifExists : Bool) (ops : List SchemaOp) : Prop where
  nodup : ops.Nodup
  mem_iff : ∀ op, op ∈ ops ↔ ∃ id t, c.table? id = some t ∧ op = dropTable id ifExists
  ordered : ∀ before id after, ops = before ++ dropTable id ifExists :: after →
    ∀ other t, dropTable other ifExists ∈ after → c.table? other = some t → ∀ key ∈ t.foreignKeys, key.foreignTable ≠ id

def table : SchemaOp → TableId
  | createTable id _ | dropTable id _ | createIndex id _ _ => id

-- The operations differ, and the first does not need what the second makes.
def Precedes (c : Catalog) (a b : SchemaOp) : Prop :=
  a ≠ b ∧ ∀ id ifNotExists, a.Needs c id → b ≠ createTable id ifNotExists

variable {c : Catalog} {t : TableDef} {id : TableId} {op : SchemaOp} {ifNotExists ifExists : Bool}

theorem createAll_concat (ts : List TableDef) (t : TableDef) (ifNotExists : Bool) :
    createAll ⟨ts ++ [t]⟩ ifNotExists =
      createAll ⟨ts⟩ ifNotExists ++ createTableAndIndices ifNotExists ts.length t := by
  simp [createAll, List.mapIdx_append]

theorem dropAll_concat (ts : List TableDef) (t : TableDef) (ifExists : Bool) :
    dropAll ⟨ts ++ [t]⟩ ifExists = dropTable ts.length ifExists :: dropAll ⟨ts⟩ ifExists := by
  simp [dropAll, List.range_succ]

theorem mem_createTableAndIndices : op ∈ createTableAndIndices ifNotExists id t ↔
    op = createTable id ifNotExists ∨ ∃ i < t.indices.length, op = createIndex id i ifNotExists := by
  simp [createTableAndIndices, eq_comm]

theorem table_of_mem (h : op ∈ createTableAndIndices ifNotExists id t) : op.table = id := by
  rcases mem_createTableAndIndices.mp h with rfl | ⟨i, -, rfl⟩ <;> rfl

theorem mem_createAll : op ∈ createAll c ifNotExists ↔
    ∃ id t, c.table? id = some t ∧ op ∈ createTableAndIndices ifNotExists id t := by
  simp only [createAll, List.mem_flatten, List.mem_mapIdx, Catalog.table?, List.getElem?_eq_some_iff]
  constructor
  case mp =>
    rintro ⟨_, ⟨id, hid, rfl⟩, hop⟩
    exact ⟨id, _, ⟨hid, rfl⟩, hop⟩
  case mpr =>
    rintro ⟨id, t, ⟨hid, rfl⟩, hop⟩
    exact ⟨_, ⟨id, hid, rfl⟩, hop⟩

theorem mem_dropAll : op ∈ dropAll c ifExists ↔ ∃ id t, c.table? id = some t ∧ op = dropTable id ifExists := by
  simp only [dropAll, List.mem_map, List.mem_reverse, List.mem_range, Catalog.table?, List.getElem?_eq_some_iff]
  constructor
  case mp =>
    rintro ⟨id, hid, rfl⟩
    exact ⟨id, _, ⟨hid, rfl⟩, rfl⟩
  case mpr =>
    rintro ⟨id, _, ⟨hid, -⟩, rfl⟩
    exact ⟨id, hid, rfl⟩

theorem Needs.le (hc : c.WellFormed) (h : op.Needs c id) : id ≤ op.table := by
  cases h
  case index => exact Nat.le_refl _
  case reference ht hkey _ => exact ((hc.tables _ _ ht).foreignKeys _ hkey).earlier

theorem Needs.isSome (hc : c.WellFormed) (h : op.Needs c id) (hop : op ∈ createAll c ifNotExists) :
    (c.table? id).isSome := by
  obtain ⟨home, t, ht, hop⟩ := mem_createAll.mp hop
  obtain rfl := table_of_mem hop
  simp [Catalog.table?, Nat.lt_of_le_of_lt (h.le hc) (Catalog.lt_of_table? ht)]

theorem pairwise_createTableAndIndices (id : TableId) (t : TableDef) (ifNotExists : Bool) :
    (createTableAndIndices ifNotExists id t).Pairwise (Precedes c) := by
  rw [createTableAndIndices, List.pairwise_cons, List.pairwise_map]
  constructor
  case left =>
    intro op hop
    obtain ⟨i, -, rfl⟩ := List.mem_map.mp hop
    exact ⟨nofun, fun _ _ _ => nofun⟩
  case right =>
    refine List.nodup_range.imp fun {i j} hne => ⟨?_, fun _ _ _ => nofun⟩
    rw [ne_eq, createIndex.injEq]
    exact fun h => hne h.2.1

-- What comes for the tables before the last needs none after them.
theorem pairwise_createAll (hc : c.WellFormed) (ts : List TableDef) (ifNotExists : Bool) :
    (createAll ⟨ts⟩ ifNotExists).Pairwise (Precedes c) := by
  induction ts using List.reverseRecOn
  case nil => exact .nil
  case append_singleton ts t ih =>
    rw [createAll_concat, List.pairwise_append]
    refine ⟨ih, pairwise_createTableAndIndices ts.length t ifNotExists, fun a ha b hb => ?_⟩
    obtain ⟨home, s, hs, ha⟩ := mem_createAll.mp ha
    have hlt : a.table < b.table := by
      rw [table_of_mem ha, table_of_mem hb]
      exact Catalog.lt_of_table? hs
    constructor
    case left =>
      rintro rfl
      exact Nat.lt_irrefl _ hlt
    case right =>
      rintro id guard hid rfl
      exact Nat.not_lt.mpr (hid.le hc) hlt

theorem createsInOrder (hc : c.WellFormed) (ifNotExists : Bool) :
    CreatesInOrder c ifNotExists (createAll c ifNotExists) := by
  have hpairwise : (createAll c ifNotExists).Pairwise (Precedes c) := pairwise_createAll hc c.tables ifNotExists
  constructor
  case nodup => exact hpairwise.imp And.left
  case mem_iff =>
    intro op
    simp only [mem_createAll, mem_createTableAndIndices]
  case ordered =>
    intro before op after hops id hid
    obtain ⟨t, ht⟩ := Option.isSome_iff_exists.mp (hid.isSome hc (by simp [hops] : op ∈ createAll c ifNotExists))
    have hmem : createTable id ifNotExists ∈ createAll c ifNotExists :=
      mem_createAll.mpr ⟨id, t, ht, mem_createTableAndIndices.mpr (.inl rfl)⟩
    rw [hops] at hmem hpairwise
    obtain ⟨-, hafter, -⟩ := List.pairwise_append.mp hpairwise
    rw [List.pairwise_cons] at hafter
    rcases List.mem_append.mp hmem with hmem | hmem
    case inl => exact hmem
    case inr =>
      cases hmem
      case head => nomatch hid
      case tail hmem => exact absurd rfl ((hafter.1 _ hmem).2 id ifNotExists hid)

theorem dropsInOrder (hc : c.WellFormed) (ifExists : Bool) : DropsInOrder c ifExists (dropAll c ifExists) := by
  have hpairwise : (dropAll c ifExists).Pairwise fun a b => b.table < a.table := by
    rw [dropAll, List.pairwise_map, List.pairwise_reverse]
    exact List.pairwise_lt_range
  constructor
  case nodup =>
    refine hpairwise.imp fun hlt => ?_
    rintro rfl
    exact Nat.lt_irrefl _ hlt
  case mem_iff => exact fun op => mem_dropAll
  case ordered =>
    rintro before id after hops other t hother ht key hkey rfl
    rw [hops, List.pairwise_append, List.pairwise_cons] at hpairwise
    exact Nat.not_lt.mpr ((hc.tables other t ht).foreignKeys key hkey).earlier (hpairwise.2.1.1 _ hother)

end SchemaOp

end PolySql
