import PolySql.Proofs.Query.Simplifying

namespace PolySql

-- A pair of columns that is compared without the server, as the server would: a column is not `NULL` where it is
-- compared with itself, unless it is the constant, and constants that differ are neither `NULL` nor equal by value.
def Column.Settled (c : Collation) (v : Valuation) (a b : Column) : Prop :=
  (a.same b = true → a.isNull = true ∨ v.cell a ≠ none) ∧
  (a.constantsSame? b = some false → ∃ x y, v.cell a = some x ∧ v.cell b = some y ∧ c.compare x y ≠ .eq)

namespace Predicate

variable {c : Collation} {v : Valuation} {a b : Column}

theorem truth_comparison_of_same (h : a.same b = true) :
    (comparison .eq a b).truth c v = .yes ↔ a.isNull = true ∨ v.cell a ≠ none := by
  cases ha : a.isNull
  case true =>
    cases a <;> cases ha
    cases b <;> cases h
    simp [truth, Comparison.nullTest?, Column.isNull, Valuation.cell, Truth.ofBool]
  case false =>
    have hb : b.isNull = false := by
      cases b <;> try rfl
      cases a <;> cases h
      cases ha
    rw [truth_comparison_of_none (Comparison.nullTest?_eq_none ha hb), ← v.cell_eq_of_same h,
      Collation.comparison_eq_yes_iff]
    simp

theorem truth_comparison_of_constants {x : Bool} (h : a.constantsSame? b = some x) (op : Comparison) :
    (comparison op a b).truth c v = c.comparison op (v.cell a) (v.cell b) := by
  refine truth_comparison_of_none (Comparison.nullTest?_eq_none ?_ ?_)
  · cases a <;> first | rfl | cases h
  · cases a <;> cases b <;> first | rfl | cases h

theorem same_eq_of_constantsSame? {x : Bool} (h : a.constantsSame? b = some x) : a.same b = x := by
  cases a <;> cases b <;> cases h <;> rfl

theorem truth_equal_iff (c : Collation) (v : Valuation) (a b : Column) :
    (equal a b).truth c v = (comparison .eq a b).truth c v ↔ a.Settled c v b := by
  fun_cases equal a b
  case case1 h =>
    rw [eq_comm, truth, truth_comparison_of_same h]
    refine ⟨fun hcell => ⟨fun _ => hcell, fun hno => ?_⟩, fun hsettled => hsettled.1 h⟩
    rw [same_eq_of_constantsSame? hno] at h
    cases h
  case case2 h hno =>
    rw [eq_comm, truth, truth_comparison_of_constants hno, Collation.comparison_eq_no_iff]
    exact ⟨fun hdata => ⟨fun hsame => (h hsame).elim, fun _ => hdata⟩, fun hsettled => hsettled.2 hno⟩
  case case3 h hno =>
    exact iff_of_true rfl ⟨fun hsame => (h hsame).elim, fun hconstants => (hno hconstants).elim⟩

theorem truth_notEqual_iff (c : Collation) (v : Valuation) (a b : Column) :
    (notEqual a b).truth c v = (comparison .ne a b).truth c v ↔
      (equal a b).truth c v = (comparison .eq a b).truth c v := by
  rw [notEqual, truth_negated, show comparison .ne a b = (comparison .eq a b).negated from rfl, truth_negated]
  exact Truth.not_inj

-- Folding keeps the meaning of a comparison in those rows, and only those, in which it is settled.
theorem truth_folded_iff (c : Collation) (v : Valuation) (a b : Column) :
    ((equal a b).truth c v = (comparison .eq a b).truth c v ↔ a.Settled c v b) ∧
      ((notEqual a b).truth c v = (comparison .ne a b).truth c v ↔ a.Settled c v b) :=
  ⟨truth_equal_iff c v a b, (truth_notEqual_iff c v a b).trans (truth_equal_iff c v a b)⟩

end Predicate

-- A server that orders numbers and texts, and takes other data as equal.
def Collation.plain : Collation where
  compare
    | .number x, .number y => cmp x y
    | .text s, .text t => Ord.compare s t
    | _, _ => .eq
  compare_self x := by
    cases x
    case number x => exact cmp_self_eq_eq x
    case text s =>
      show Ord.compare s s = .eq
      exact Std.ReflCmp.compare_self
    all_goals rfl
  compare_number _ _ := rfl
  like _ _ _ := false
  startsWith _ _ := false
  endsWith _ _ := false

-- A row of which all columns are `NULL`.
def Valuation.blank : Valuation where
  physical _ _ := none
  star _ := none
  select _ := none
  function _ := none
  existsRow _ := false
  select_mapConstants _ _ _ := rfl
  function_mapConstants _ _ _ := rfl
  existsRow_mapConstants _ _ _ := rfl

-- A column is taken to equal itself where it is `NULL`, `NULL` to differ from a value, and one to differ from `1.0`.
theorem Predicate.not_kept_by_folding :
    let column : Column := .physical ⟨0, 1⟩ none
    let one : Column := .param (.int 1)
    let decimal : Column := .param (.decimal ⟨false, 10, 1, by decide, by decide⟩)
    (equal column column).truth .plain .blank = .yes ∧
      (comparison .eq column column).truth .plain .blank = .unknown ∧
    (notEqual (.param .null) one).truth .plain .blank = .yes ∧
      (comparison .ne (.param .null) one).truth .plain .blank = .unknown ∧
    (equal one decimal).truth .plain .blank = .no ∧
      (comparison .eq one decimal).truth .plain .blank = .yes := by
  refine ⟨by decide, by decide, by decide, by decide, by decide, ?_⟩
  have hnumber : Value.datum? (.decimal ⟨false, 10, 1, by decide, by decide⟩) = Value.datum? (.int 1) := by
    simp [Value.datum?, Number.ofDecimal]
  rw [truth_comparison_of_constants rfl, Valuation.cell, Valuation.cell, hnumber]
  exact Collation.comparison_eq_yes_iff.mpr (Option.some_ne_none _)

end PolySql
