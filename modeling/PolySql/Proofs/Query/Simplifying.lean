import PolySql.Proofs.Query.Truth
import PolySql.Statement.Update

namespace PolySql

variable {c : Collation} {v : Valuation} {a b : Column} {p q : Predicate}

section

variable {op : Comparison}

theorem Comparison.nullTest?_eq_none (ha : a.isNull = false) (hb : b.isNull = false) : op.nullTest? a b = none := by
  cases op <;> simp [nullTest?, ha, hb]

theorem Comparison.nullTest?_negated (op : Comparison) (a b : Column) :
    op.negated.nullTest? a b = (op.nullTest? a b).map fun x => (!x.1, x.2) := by
  cases op <;> simp only [negated, nullTest?, Option.map_none]
  all_goals split_ifs <;> rfl

theorem Collation.comparison_negated (x y : Option Datum) :
    c.comparison op.negated x y = (c.comparison op x y).not := by
  simp only [comparison, Truth.not_lifted, Comparison.holds_negated]

theorem Collation.comparison_eq_yes_iff {x : Option Datum} : c.comparison .eq x x = .yes ↔ x ≠ none := by
  cases x <;> simp [comparison, Truth.lifted, Comparison.holds, c.compare_self, Truth.ofBool]

theorem Collation.comparison_eq_no_iff {x y : Option Datum} :
    c.comparison .eq x y = .no ↔ ∃ s t, x = some s ∧ y = some t ∧ c.compare s t ≠ .eq := by
  cases x <;> cases y <;> simp [comparison, Truth.lifted, Comparison.holds, Truth.ofBool]

end

namespace Predicate

theorem both_eq (p q : Predicate) : p.both q = .never ∨ p.both q = p ∨ p.both q = q ∨ p.both q = .and p q := by
  fun_cases both p q <;> simp

theorem truth_comparison_of_none {op : Comparison} (h : op.nullTest? a b = none) :
    (comparison op a b).truth c v = c.comparison op (v.cell a) (v.cell b) := by
  rw [truth, h]

theorem truth_negated (p : Predicate) : p.negated.truth c v = (p.truth c v).not := by
  fun_cases negated p
  case case3 op a b =>
    rw [truth, truth, Comparison.nullTest?_negated]
    cases op.nullTest? a b
    case none => exact c.comparison_negated _ _
    case some x => simp [Truth.not_ofBool]
  case case4 p => rw [truth, Truth.not_not]
  all_goals rfl

theorem truth_both (p q : Predicate) : (p.both q).truth c v = (p.truth c v).and (q.truth c v) := by
  fun_cases both p q
  case case5 h => rw [← truth_eq_of_same h, Truth.and_self]
  case case6 => rfl
  all_goals simp [truth]

theorem truth_either (p q : Predicate) : (p.either q).truth c v = (p.truth c v).or (q.truth c v) := by
  fun_cases either p q
  case case5 h => rw [← truth_eq_of_same h, Truth.or_self]
  case case6 => rfl
  all_goals simp [truth]

theorem truth_oneOf (a : Column) (l : List Column) :
    (oneOf a l).truth c v = .any (l.map fun b => c.comparison .eq (v.cell a) (v.cell b)) := by
  cases l <;> rfl

theorem truth_foldl_both (ps : List Predicate) (p : Predicate) :
    (ps.foldl both p).truth c v = (p.truth c v).and (.all (ps.map (truth c v))) := by
  induction ps generalizing p
  case nil => simp [Truth.all]
  case cons q ps ih => rw [List.foldl_cons, ih, truth_both, Truth.and_assoc, List.map_cons, Truth.all, Truth.all,
    List.foldr_cons]

theorem truth_foldl_either (ps : List Predicate) (p : Predicate) :
    (ps.foldl either p).truth c v = (p.truth c v).or (.any (ps.map (truth c v))) := by
  induction ps generalizing p
  case nil => simp [Truth.any]
  case cons q ps ih => rw [List.foldl_cons, ih, truth_either, Truth.or_assoc, List.map_cons, Truth.any, Truth.any,
    List.foldr_cons]

theorem selects_foldl_both (ps : List Predicate) (p : Predicate) :
    (ps.foldl both p).Selects c v ↔ p.Selects c v ∧ ∀ q ∈ ps, q.Selects c v := by
  simp only [Selects, truth_foldl_both, Truth.and_eq_yes, Truth.all_eq_yes, List.forall_mem_map]

theorem selects_foldl_either (ps : List Predicate) (p : Predicate) :
    (ps.foldl either p).Selects c v ↔ p.Selects c v ∨ ∃ q ∈ ps, q.Selects c v := by
  simp only [Selects, truth_foldl_either, Truth.or_eq_yes, Truth.any_eq_yes, List.mem_map, exists_exists_and_eq_and]

end Predicate

-- Filters change the condition of a statement and nothing else.

theorem Select.foldl_filter (s : Select) (ps : List Predicate) :
    ps.foldl filter s = { s with predicate := ps.foldl .both s.predicate } := by
  induction ps generalizing s
  case nil => cases s; rfl
  case cons p ps ih => rw [List.foldl_cons, ih, filter, List.foldl_cons]

theorem Update.foldl_filter (u : Update) (ps : List Predicate) :
    ps.foldl filter u = { u with predicate := ps.foldl .both u.predicate } := by
  induction ps generalizing u
  case nil => rfl
  case cons p ps ih => rw [List.foldl_cons, ih, filter, List.foldl_cons]

theorem Delete.foldl_filter (s : Delete) (ps : List Predicate) :
    ps.foldl filter s = { s with predicate := ps.foldl .both s.predicate } := by
  induction ps generalizing s
  case nil => rfl
  case cons p ps ih => rw [List.foldl_cons, ih, filter, List.foldl_cons]

namespace Predicate

end Predicate

end PolySql
