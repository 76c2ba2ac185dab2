import PolySql.Proofs.Query.Folding
import PolySql.Proofs.Sql.Outcome
import PolySql.Proofs.Statement.Completion
import PolySql.Statement.Identity

namespace PolySql

section

variable {c : Collation} {rows : List Valuation} {p : Predicate} {id : ColumnId} {v : Value}

-- How many of the rows a statement with the condition takes.
def Predicate.count (p : Predicate) (c : Collation) (rows : List Valuation) : Nat :=
  rows.countP fun row => p.truth c row = .yes

-- The column of the row is equal to the value.
def Valuation.Has (row : Valuation) (c : Collation) (id : ColumnId) (v : Value) : Prop :=
  c.comparison .eq (row.physical id none) v.datum? = .yes

-- Rows of a table as its primary key admits them: no column of the key is `NULL`, and any two rows differ in one.
structure Catalog.Keyed (c : Catalog) (collation : Collation) (table : TableId) (rows : List Valuation) : Prop where
  not_null : ∀ row ∈ rows, ∀ id ∈ c.keyIds table, row.physical id none ≠ none
  unique : rows.Pairwise fun row other =>
    ∃ id ∈ c.keyIds table, collation.comparison .eq (row.physical id none) (other.physical id none) ≠ .yes

theorem Collation.comparison_eq_eq_yes {x y : Option Datum} :
    c.comparison .eq x y = .yes ↔ ∃ a b, x = some a ∧ y = some b ∧ c.compare a b = .eq := by
  cases x <;> cases y <;> simp [comparison, Truth.lifted, Comparison.holds, Truth.ofBool]

-- What equals the same value is equal.
theorem Valuation.Has.comparison_eq (heq : Equivalence fun x y => c.compare x y = .eq) {row other : Valuation}
    (h : row.Has c id v) (h' : other.Has c id v) :
    c.comparison .eq (row.physical id none) (other.physical id none) = .yes := by
  obtain ⟨x, y, hx, hy, hxy⟩ := Collation.comparison_eq_eq_yes.mp h
  obtain ⟨z, y', hz, hy', hzy⟩ := Collation.comparison_eq_eq_yes.mp h'
  cases hy.symm.trans hy'
  exact Collation.comparison_eq_eq_yes.mpr ⟨x, z, hx, hz, heq.trans hxy (heq.symm hzy)⟩

theorem Value.datum?_eq_none {v : Value} : v.datum? = none ↔ v = .null := by
  cases v <;> simp [datum?]

theorem Valuation.Has.ne_null {row : Valuation} (h : row.Has c id v) : v ≠ .null := by
  rintro rfl
  obtain ⟨_, _, -, hdatum, -⟩ := Collation.comparison_eq_eq_yes.mp h
  cases hdatum

-- Of rows that differ pairwise, a condition that only equal rows meet takes one at most.
theorem Predicate.count_le_one {r : Valuation → Valuation → Prop} (hrows : rows.Pairwise r)
    (h : ∀ row ∈ rows, ∀ other ∈ rows, p.Selects c row → p.Selects c other → ¬r row other) : p.count c rows ≤ 1 := by
  induction hrows
  case nil => exact Nat.zero_le _
  case cons row rows hrow _ ih =>
    rw [count, List.countP_cons]
    split_ifs with htaken
    case neg => exact ih fun x hx y hy => h x (.tail _ hx) y (.tail _ hy)
    case pos =>
      refine Nat.succ_le_succ (List.countP_eq_zero.mpr fun other hother htaken' => ?_).le
      rw [decide_eq_true_eq] at htaken htaken'
      exact h row (.head _) other (.tail _ hother) htaken htaken' (hrow other hother)

theorem Predicate.count_both_le (p q : Predicate) (c : Collation) (rows : List Valuation) :
    (p.both q).count c rows ≤ q.count c rows := by
  refine List.countP_mono_left fun row _ h => ?_
  rw [decide_eq_true_eq, truth_both, Truth.and_eq_yes] at h
  exact decide_eq_true h.2

end

namespace CompositeId

-- The id after values for several columns, one after the other.
def setAll (c : Catalog) (i : CompositeId) (sets : List (ColumnId × Value)) : Result CompositeId :=
  sets.foldlM (fun i x => i.set c x.1 x.2) i

-- What the id has, after values for columns of the key.
structure Holds (c : Catalog) (i : CompositeId) (table : TableId) (sets : List (ColumnId × Value)) : Prop where
  table_eq : i.table = table
  get?_eq : ∀ id, i.get? id = sets.reverse.lookup id
  nodup : (i.values.map (·.1)).Nodup
  mem_keyIds : ∀ x ∈ i.values, x.1 ∈ c.keyIds table

variable {c : Catalog} {table : TableId} {i j : CompositeId} {id : ColumnId} {v : Value}
  {sets : List (ColumnId × Value)}

theorem lookup_put (id other : ColumnId) (v : Value) (values : List (ColumnId × Value)) :
    (put id v values).lookup other = if other = id then some v else values.lookup other := by
  induction values
  case nil => rw [put, lookup_cons]
  case cons x r ih =>
    obtain ⟨key, w⟩ := x
    by_cases hkey : key = id
    case pos =>
      subst hkey
      rw [put, if_pos rfl, lookup_cons, lookup_cons]
      split_ifs <;> rfl
    case neg =>
      rw [put, if_neg hkey, lookup_cons, lookup_cons, ih]
      by_cases h : other = key
      case pos => rw [if_pos h, if_pos h, if_neg (h ▸ hkey)]
      case neg => rw [if_neg h, if_neg h]

theorem map_fst_put (id : ColumnId) (v : Value) (values : List (ColumnId × Value)) :
    (put id v values).map (·.1) =
      if id ∈ values.map (·.1) then values.map (·.1) else values.map (·.1) ++ [id] := by
  induction values
  case nil => rfl
  case cons x r ih =>
    obtain ⟨key, w⟩ := x
    by_cases hkey : key = id
    case pos => simp [put, hkey]
    case neg =>
      rw [put, if_neg hkey, List.map_cons, ih]
      by_cases h : id ∈ r.map (·.1) <;> simp [h, Ne.symm hkey]

theorem set_eq_ok (h : i.set c id v = .ok j) : id ∈ c.keyIds i.table ∧ j = { i with values := put id v i.values } := by
  rw [set] at h
  split at h
  case isTrue => nomatch h
  case isFalse =>
    split at h
    case isTrue => nomatch h
    case isFalse hkey =>
      split at h
      case isTrue => nomatch h
      case isFalse => exact ⟨by simpa using hkey, (Except.ok.inj h).symm⟩

theorem holds_new (c : Catalog) (table : TableId) : (new table).Holds c table [] where
  table_eq := rfl
  get?_eq _ := rfl
  nodup := .nil
  mem_keyIds _ h := nomatch h

theorem holds_set (hi : i.Holds c table sets) (h : i.set c id v = .ok j) : j.Holds c table (sets ++ [(id, v)]) := by
  obtain ⟨hkey, rfl⟩ := set_eq_ok h
  refine ⟨hi.table_eq, fun other => ?_, ?_, fun x hx => ?_⟩
  case refine_1 =>
    rw [get?, lookup_put, ← get?, hi.get?_eq, List.reverse_append, List.reverse_singleton, List.singleton_append,
      lookup_cons]
  case refine_2 =>
    rw [map_fst_put]
    split_ifs with hmem
    case pos => exact hi.nodup
    case neg =>
      refine List.nodup_append.mpr ⟨hi.nodup, List.pairwise_singleton _ _, ?_⟩
      rintro other hother _ hid rfl
      exact hmem (List.mem_singleton.mp hid ▸ hother)
  case refine_3 =>
    have hx := List.mem_map_of_mem (f := (·.1)) hx
    rw [map_fst_put] at hx
    have hfrom : x.1 ∈ i.values.map (·.1) ∨ x.1 = id := by
      split_ifs at hx with hmem
      · exact .inl hx
      · simpa using hx
    rcases hfrom with hfrom | hfrom
    case inl =>
      obtain ⟨y, hy, hyx⟩ := List.mem_map.mp hfrom
      exact hyx ▸ hi.mem_keyIds y hy
    case inr => exact hfrom ▸ hi.table_eq ▸ hkey

theorem holds_setAll {done : List (ColumnId × Value)} (hi : i.Holds c table done) (h : i.setAll c sets = .ok j) :
    j.Holds c table (done ++ sets) := by
  induction sets generalizing i done
  case nil =>
    cases h
    rwa [List.append_nil]
  case cons x r ih =>
    rw [CompositeId.setAll, List.foldlM_cons, Result.bind_eq_ok] at h
    obtain ⟨k, hk, h⟩ := h
    have hj := ih (holds_set hi hk) h
    rwa [List.append_assoc, List.singleton_append] at hj

theorem isComplete_iff (hi : i.Holds c table sets) :
    i.isComplete c = true ↔ ∀ id ∈ c.keyIds table, ∃ v, i.get? id = some v := by
  simp only [isComplete, List.all_eq_true, hi.table_eq, Option.isSome_iff_exists]

theorem predicate_eq (i : CompositeId) :
    i.predicate = (i.values.map fun x => comparison x.1 x.2).foldl Predicate.both .always := by
  rw [List.foldl_map, predicate]

section

variable {collation : Collation} {row : Valuation} {rows : List Valuation}

theorem selects_comparison (hrow : row.physical id none ≠ none) :
    (comparison id v).Selects collation row ↔ row.Has collation id v := by
  by_cases hv : v = .null
  case pos =>
    subst hv
    refine iff_of_false (fun h => hrow ?_) fun h => h.ne_null rfl
    simpa [comparison, Predicate.isNull, Predicate.Selects, Predicate.truth, Comparison.nullTest?, Column.isNull,
      Valuation.cell, Truth.ofBool] using h
  case neg =>
    have hcomparison : comparison id v = .comparison .eq (.physical id none) (.param v) := by
      cases v <;> first | rfl | cases hv rfl
    rw [hcomparison, Predicate.Selects, Predicate.truth_comparison_of_none (Comparison.nullTest?_eq_none rfl rfl)]
    rfl

-- A row is taken exactly if it has the values that were set.
theorem selects_predicate (hi : i.Holds c table sets) (hrow : ∀ id ∈ c.keyIds table, row.physical id none ≠ none) :
    i.predicate.Selects collation row ↔ ∀ id v, i.get? id = some v → row.Has collation id v := by
  rw [predicate_eq, Predicate.selects_foldl_both, and_iff_right (show Predicate.always.Selects collation row from rfl),
    List.forall_mem_map]
  constructor
  case mp =>
    intro h id v hv
    have hmem := (mem_iff_lookup hi.nodup).mpr hv
    exact (selects_comparison (hrow id (hi.mem_keyIds _ hmem))).mp (h _ hmem)
  case mpr =>
    intro h x hx
    exact (selects_comparison (hrow x.1 (hi.mem_keyIds x hx))).mpr (h _ _ ((mem_iff_lookup hi.nodup).mp hx))

theorem selects_of_isComplete (hi : i.Holds c table sets) (hc : i.isComplete c = true)
    (hrow : ∀ id ∈ c.keyIds table, row.physical id none ≠ none) :
    i.predicate.Selects collation row ↔ ∀ id ∈ c.keyIds table, ∃ v, i.get? id = some v ∧ row.Has collation id v := by
  rw [selects_predicate hi hrow]
  constructor
  case mp =>
    intro h id hid
    obtain ⟨v, hv⟩ := (isComplete_iff hi).mp hc id hid
    exact ⟨v, hv, h id v hv⟩
  case mpr =>
    intro h id v hv
    obtain ⟨w, hw, hhas⟩ := h id (hi.mem_keyIds (id, v) ((mem_iff_lookup hi.nodup).mpr hv))
    cases hv.symm.trans hw
    exact hhas

theorem count_le_one_of_isComplete (heq : Equivalence fun x y => collation.compare x y = .eq)
    (hi : i.Holds c table sets) (hc : i.isComplete c = true) (hrows : c.Keyed collation table rows) :
    i.predicate.count collation rows ≤ 1 := by
  refine Predicate.count_le_one hrows.unique fun row hrow other hother htaken htaken' ⟨id, hid, hne⟩ => hne ?_
  obtain ⟨v, hv, hhas⟩ := (selects_of_isComplete hi hc (hrows.not_null row hrow)).mp htaken id hid
  exact hhas.comparison_eq heq ((selects_predicate hi (hrows.not_null other hother)).mp htaken' id v hv)

theorem count_eq_zero_of_null (hi : i.Holds c table sets) (hnull : i.get? id = some .null)
    (hrows : c.Keyed collation table rows) : i.predicate.count collation rows = 0 := by
  refine List.countP_eq_zero.mpr fun row hrow htaken => ?_
  rw [decide_eq_true_eq] at htaken
  exact ((selects_predicate hi (hrows.not_null row hrow)).mp htaken id .null hnull).ne_null rfl

-- A row with the values that were set, and the number in all other columns.
def filled (i : CompositeId) (x : ℚ) : Valuation :=
  { Valuation.blank with physical := fun id _ => ((i.get? id).map (·.datum?)).getD (some (.number (.ofRat x))) }

theorem has_filled (hv : i.get? id = some v) (hnull : v ≠ .null) (x : ℚ) : (i.filled x).Has collation id v := by
  have hcell : (i.filled x).physical id none = v.datum? := by
    simp only [filled, hv, Option.map_some, Option.getD_some]
  rw [Valuation.Has, hcell]
  exact Collation.comparison_eq_yes_iff.mpr (mt Value.datum?_eq_none.mp hnull)

theorem physical_filled (hv : i.get? id = none) (x : ℚ) :
    (i.filled x).physical id none = some (.number (.ofRat x)) := by
  simp only [filled, hv, Option.map_none, Option.getD_none]

-- Without a value for each column of the key, two rows of one table are taken.
theorem exists_two_rows (hi : i.Holds c table sets) (hc : ¬i.isComplete c = true)
    (hnull : ∀ id, i.get? id ≠ some .null) :
    c.Keyed collation table [i.filled 0, i.filled 1] ∧ i.predicate.count collation [i.filled 0, i.filled 1] = 2 := by
  have hhas {id : ColumnId} {v : Value} (hv : i.get? id = some v) (x : ℚ) : (i.filled x).Has collation id v :=
    has_filled hv (fun h => hnull id (hv.trans (congrArg some h))) x
  have hcell (x : ℚ) (id : ColumnId) : (i.filled x).physical id none ≠ none := by
    cases hv : i.get? id
    case none => rw [physical_filled hv]; nofun
    case some v =>
      obtain ⟨y, _, hy, -⟩ := Collation.comparison_eq_eq_yes.mp (hhas hv x)
      rw [hy]
      nofun
  have htaken (x : ℚ) : i.predicate.truth collation (i.filled x) = .yes :=
    (selects_predicate hi fun id _ => hcell x id).mpr fun id v hv => hhas hv x
  obtain ⟨id, hid, hv⟩ : ∃ id ∈ c.keyIds table, i.get? id = none := by
    simpa only [isComplete_iff hi, not_forall, exists_prop, not_exists, ← ne_eq,
      ← Option.eq_none_iff_forall_ne_some] using hc
  have hdiffer : collation.comparison .eq ((i.filled 0).physical id none) ((i.filled 1).physical id none) ≠ .yes := by
    rw [physical_filled hv, physical_filled hv, ne_eq, Collation.comparison_eq_eq_yes]
    rintro ⟨x, y, ⟨⟩, ⟨⟩, h⟩
    rw [collation.compare_number, cmp_eq_eq_iff] at h
    simp [Number.ofRat] at h
  refine ⟨⟨?_, ?_⟩, ?_⟩
  · simp only [List.forall_mem_cons]
    exact ⟨fun id _ => hcell 0 id, fun id _ => hcell 1 id, nofun⟩
  · simp only [List.pairwise_cons, List.mem_singleton, forall_eq]
    exact ⟨⟨id, hid, hdiffer⟩, nofun, .nil⟩
  · simp [Predicate.count, htaken]

end

-- The condition of an id takes the rows that have the values last set. Whatever the table has in it, that is one row
-- at most exactly if there is a value for each column of the key, or a `NULL`, which no row has.
theorem predicate_takes {collation : Collation} (heq : Equivalence fun x y => collation.compare x y = .eq)
    (h : (new table).setAll c sets = .ok i) :
    (∀ id, i.get? id = sets.reverse.lookup id) ∧
    (∀ rows, c.Keyed collation table rows → ∀ row ∈ rows,
      (i.predicate.Selects collation row ↔ ∀ id v, i.get? id = some v → row.Has collation id v)) ∧
    ((∀ rows, c.Keyed collation table rows → i.predicate.count collation rows ≤ 1) ↔
      i.isComplete c = true ∨ ∃ id, i.get? id = some .null) ∧
    (i.isComplete c = true → ∀ rows, c.Keyed collation table rows →
      (∀ row ∈ rows, i.predicate.Selects collation row ↔
        ∀ id ∈ c.keyIds table, ∃ v, i.get? id = some v ∧ row.Has collation id v) ∧
      (∀ s : Delete, (s.filter i.predicate).predicate.count collation rows ≤ 1) ∧
      (∀ u : Update, (u.filter i.predicate).predicate.count collation rows ≤ 1)) := by
  have hi : i.Holds c table sets := holds_setAll (holds_new c table) h
  refine ⟨hi.get?_eq, fun rows hrows row hrow => selects_predicate hi (hrows.not_null row hrow), ⟨fun hall => ?_, ?_⟩,
    fun hc rows hrows => ?_⟩
  case refine_1 =>
    by_contra hn
    rw [not_or, not_exists] at hn
    have htwo : c.Keyed collation table _ ∧ _ := exists_two_rows hi hn.1 hn.2
    have hcount := hall _ htwo.1
    omega
  case refine_2 =>
    rintro (hc | ⟨id, hnull⟩) rows hrows
    case inl => exact count_le_one_of_isComplete heq hi hc hrows
    case inr => exact (count_eq_zero_of_null hi hnull hrows).le.trans (Nat.zero_le 1)
  case refine_3 =>
    have hcount := count_le_one_of_isComplete heq hi hc hrows
    exact ⟨fun row hrow => selects_of_isComplete hi hc (hrows.not_null row hrow),
      fun s => (Predicate.count_both_le _ _ _ _).trans hcount, fun u => (Predicate.count_both_le _ _ _ _).trans hcount⟩

-- Where a datum stands if numbers come first, and all other data is equal.
def rank : Datum → WithTop Number
  | .number x => x
  | _ => ⊤

-- A server that orders numbers.
def numeric : Collation where
  compare x y := cmp (rank x) (rank y)
  compare_self x := cmp_self_eq_eq (rank x)
  compare_number x y := WithTop.coe_strictMono.cmp_map_eq x y
  like _ _ _ := false
  startsWith _ _ := false
  endsWith _ _ := false

theorem compare_numeric_eq (x y : Datum) : numeric.compare x y = .eq ↔ rank x = rank y :=
  cmp_eq_eq_iff _ _

theorem equivalence_numeric : Equivalence fun x y => numeric.compare x y = .eq := by
  simp only [compare_numeric_eq]
  exact eq_equivalence.comap rank

def tickets : Catalog :=
  let column (name : String) (nullable : Bool) : ColumnDef := ⟨name, .int .bits32, nullable, false, false, none⟩
  ⟨[⟨"tickets", [column "concert_id" false, column "seat" false, column "holder" true], [0, 1], [], []⟩]⟩

-- A ticket for the seat of the concert.
def ticket (concert seat : ℚ) : Valuation :=
  { Valuation.blank with
    physical := fun id _ => [some (.number (.ofRat concert)), some (.number (.ofRat seat)), none][id.column]?.getD none }

theorem keyed_tickets : tickets.Keyed numeric 0 [ticket 3 12, ticket 3 13] where
  not_null := by simp [tickets, Catalog.keyIds, Catalog.table?, ticket]
  unique := by
    simp [tickets, Catalog.keyIds, Catalog.table?, ticket, Collation.comparison_eq_eq_yes, compare_numeric_eq, rank,
      Number.ofRat]

-- The last seat counts.
theorem predicate_takes_ticket :
    let sets : List (ColumnId × Value) := [(⟨0, 0⟩, .int 3), (⟨0, 1⟩, .int 13), (⟨0, 1⟩, .int 12)]
    ∃ i, (Equivalence fun x y => numeric.compare x y = .eq) ∧ (new 0).setAll tickets sets = .ok i ∧
      i.get? ⟨0, 1⟩ = some (.int 12) ∧ i.isComplete tickets = true ∧
      i.predicate.Selects numeric (ticket 3 12) ∧ i.predicate.count numeric [ticket 3 12, ticket 3 13] ≤ 1 := by
  intro sets
  have hset : (new 0).setAll tickets sets = .ok ⟨0, [(⟨0, 0⟩, .int 3), (⟨0, 1⟩, .int 12)]⟩ := rfl
  obtain ⟨hget, -, hcount, htakes⟩ := predicate_takes equivalence_numeric hset
  refine ⟨_, equivalence_numeric, hset, hget ⟨0, 1⟩, rfl, ((htakes rfl _ keyed_tickets).1 _ (.head _)).mpr ?_,
    hcount.mpr (.inl rfl) _ keyed_tickets⟩
  have hconcert : (ticket 3 12).Has numeric ⟨0, 0⟩ (.int 3) := Collation.comparison_eq_yes_iff.mpr (Option.some_ne_none _)
  have hseat : (ticket 3 12).Has numeric ⟨0, 1⟩ (.int 12) := Collation.comparison_eq_yes_iff.mpr (Option.some_ne_none _)
  simp only [tickets, Catalog.keyIds, Catalog.table?, List.getElem?_cons_zero, Option.map_some, Option.getD_some,
    List.map_cons, List.map_nil, List.forall_mem_cons]
  exact ⟨⟨_, rfl, hconcert⟩, ⟨_, rfl, hseat⟩, List.forall_mem_nil _⟩

-- An id without any value takes every ticket.
theorem predicate_of_new_takes_all :
    tickets.Keyed numeric 0 [ticket 3 12, ticket 3 13] ∧
      ((Delete.new 0).filter (new 0).predicate).predicate.count numeric [ticket 3 12, ticket 3 13] = 2 :=
  ⟨keyed_tickets, rfl⟩

end CompositeId

end PolySql
