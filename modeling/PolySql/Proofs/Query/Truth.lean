import PolySql.Proofs.Query.Constants
import PolySql.Proofs.Sql.Rendering
import PolySql.Query.Predicate

namespace PolySql

-- The truth values of SQL.
inductive Truth
  | no
  | unknown
  | yes
  deriving DecidableEq

namespace Truth

def ofBool (b : Bool) : Truth :=
  if b then yes else no

def not : Truth → Truth
  | no => yes
  | unknown => unknown
  | yes => no

def and : Truth → Truth → Truth
  | no, _ | _, no => no
  | yes, yes => yes
  | _, _ => unknown

def or : Truth → Truth → Truth
  | yes, _ | _, yes => yes
  | no, no => no
  | _, _ => unknown

def all (ts : List Truth) : Truth :=
  ts.foldr and yes

def any (ts : List Truth) : Truth :=
  ts.foldr or no

-- A relation of data, which nothing is known of if one of them is `NULL`.
def lifted (r : Datum → Datum → Bool) : Option Datum → Option Datum → Truth
  | some x, some y => ofBool (r x y)
  | _, _ => unknown

variable {r : Datum → Datum → Bool}

@[simp] theorem not_not (t : Truth) : t.not.not = t := by cases t <;> rfl
@[simp] theorem no_and (t : Truth) : no.and t = no := by cases t <;> rfl
@[simp] theorem and_no (t : Truth) : t.and no = no := by cases t <;> rfl
@[simp] theorem yes_and (t : Truth) : yes.and t = t := by cases t <;> rfl
@[simp] theorem and_yes (t : Truth) : t.and yes = t := by cases t <;> rfl
@[simp] theorem and_self (t : Truth) : t.and t = t := by cases t <;> rfl
@[simp] theorem no_or (t : Truth) : no.or t = t := by cases t <;> rfl
@[simp] theorem or_no (t : Truth) : t.or no = t := by cases t <;> rfl
@[simp] theorem yes_or (t : Truth) : yes.or t = yes := by cases t <;> rfl
@[simp] theorem or_yes (t : Truth) : t.or yes = yes := by cases t <;> rfl
@[simp] theorem or_self (t : Truth) : t.or t = t := by cases t <;> rfl

theorem not_inj {t u : Truth} : t.not = u.not ↔ t = u := by
  cases t <;> cases u <;> decide

theorem and_assoc (t u w : Truth) : (t.and u).and w = t.and (u.and w) := by
  cases t <;> cases u <;> cases w <;> rfl

theorem or_assoc (t u w : Truth) : (t.or u).or w = t.or (u.or w) := by
  cases t <;> cases u <;> cases w <;> rfl

theorem not_ofBool (b : Bool) : (ofBool b).not = ofBool !b := by
  cases b <;> rfl

theorem and_eq_yes {t u : Truth} : t.and u = yes ↔ t = yes ∧ u = yes := by
  cases t <;> cases u <;> decide

theorem or_eq_yes {t u : Truth} : t.or u = yes ↔ t = yes ∨ u = yes := by
  cases t <;> cases u <;> decide

theorem all_eq_yes {ts : List Truth} : all ts = yes ↔ ∀ t ∈ ts, t = yes := by
  induction ts
  case nil => simp [all]
  case cons t ts ih => rw [all, List.foldr_cons, and_eq_yes, List.forall_mem_cons, ← ih, all]

theorem any_eq_yes {ts : List Truth} : any ts = yes ↔ ∃ t ∈ ts, t = yes := by
  induction ts
  case nil => simp [any]
  case cons t ts ih => rw [any, List.foldr_cons, or_eq_yes, List.exists_mem_cons_iff, ← ih, any]

theorem not_lifted (x y : Option Datum) : (lifted r x y).not = lifted (fun x y => !r x y) x y := by
  cases x <;> cases y <;> first | rfl | exact not_ofBool _

end Truth

-- Whether a comparison holds of data that are in an order.
def Comparison.holds : Comparison → Ordering → Bool
  | eq => (· == .eq)
  | ne => (· != .eq)
  | lt => (· == .lt)
  | le => (· != .gt)
  | gt => (· == .gt)
  | ge => (· != .lt)

theorem Comparison.holds_negated (op : Comparison) (o : Ordering) : op.negated.holds o = !op.holds o := by
  cases op <;> cases o <;> rfl

-- How a server orders and matches data. Numbers of all kinds are compared by value.
structure Collation where
  compare : Datum → Datum → Ordering
  compare_self : ∀ x, compare x x = .eq
  compare_number : ∀ x y, compare (.number x) (.number y) = cmp x y
  like : Bool → Datum → Datum → Bool
  startsWith : Datum → Datum → Bool
  endsWith : Datum → Datum → Bool

-- What the parts of a condition are in one row. Queries and functions see what their constants are, and
-- not how a number among them is written.
structure Valuation where
  physical : ColumnId → Option String → Option Datum
  star : Option TableId → Option Datum
  select : Select → Option Datum
  function : Function → Option Datum
  existsRow : Select → Bool
  select_mapConstants : ∀ f s, (∀ v, (f v).Alike v) → select (s.mapConstants f) = select s
  function_mapConstants : ∀ f g, (∀ v, (f v).Alike v) → function (g.mapConstants f) = function g
  existsRow_mapConstants : ∀ f s, (∀ v, (f v).Alike v) → existsRow (s.mapConstants f) = existsRow s

def Collation.comparison (c : Collation) (op : Comparison) : Option Datum → Option Datum → Truth :=
  .lifted fun x y => op.holds (c.compare x y)

-- What a column is in the row; nothing if it is `NULL`.
def Valuation.cell (v : Valuation) : Column → Option Datum
  | .physical id a => v.physical id a
  | .param x | .literal x => x.datum?
  | .subSelect s => v.select s
  | .star t => v.star t
  | .null => none
  | .function f => v.function f

namespace Predicate

-- The truth value of a condition in a row.
def truth (c : Collation) (v : Valuation) : Predicate → Truth
  | always => .yes
  | never => .no
  | comparison op a b =>
    match op.nullTest? a b with
    | some (isNegated, x) => .ofBool ((v.cell x).isNone != isNegated)
    | none => c.comparison op (v.cell a) (v.cell b)
  | inList a l => .any (l.map fun b => c.comparison .eq (v.cell a) (v.cell b))
  | between a low high => (c.comparison .ge (v.cell a) (v.cell low)).and (c.comparison .le (v.cell a) (v.cell high))
  | like a b s => .lifted (c.like s) (v.cell a) (v.cell b)
  | startsWith a b => .lifted c.startsWith (v.cell a) (v.cell b)
  | endsWith a b => .lifted c.endsWith (v.cell a) (v.cell b)
  | existsRow s => .ofBool (v.existsRow s)
  | and p q => (p.truth c v).and (q.truth c v)
  | or p q => (p.truth c v).or (q.truth c v)
  | not p => (p.truth c v).not
termination_by structural x => x

-- Whether a statement with the condition takes the row.
def Selects (c : Collation) (v : Valuation) (p : Predicate) : Prop :=
  p.truth c v = .yes

end Predicate

theorem Column.isNull_mapConstants (f : Value → Value) (a : Column) : (a.mapConstants f).isNull = a.isNull := by
  cases a <;> rfl

theorem Comparison.nullTest?_mapConstants (f : Value → Value) (op : Comparison) (a b : Column) :
    op.nullTest? (a.mapConstants f) (b.mapConstants f) = (op.nullTest? a b).map fun x => (x.1, x.2.mapConstants f) := by
  cases op <;> simp only [nullTest?, Column.isNull_mapConstants, Option.map_none]
  all_goals split_ifs <;> rfl

variable {c : Collation} {v : Valuation}

section

variable {f : Value → Value} (hf : ∀ v, (f v).Alike v)

include hf

theorem Valuation.cell_mapConstants (v : Valuation) (a : Column) : v.cell (a.mapConstants f) = v.cell a := by
  cases a <;> rw [Column.mapConstants]
  case param x | literal x => exact (hf x).2
  case subSelect s => exact v.select_mapConstants f s hf
  case function g => exact v.function_mapConstants f g hf

theorem Predicate.truth_mapConstants (p : Predicate) : (p.mapConstants f).truth c v = p.truth c v := by
  cases p
  case comparison op a b =>
    rw [mapConstants, truth, truth, Comparison.nullTest?_mapConstants]
    cases op.nullTest? a b <;> simp only [Option.map, v.cell_mapConstants hf]
  case inList a l =>
    simp only [mapConstants, truth, Column.mapAllConstants_eq_map, List.map_map, Function.comp_def,
      v.cell_mapConstants hf]
  case existsRow s => rw [mapConstants, truth, truth, v.existsRow_mapConstants f s hf]
  case and p q => rw [mapConstants, truth, truth, truth_mapConstants p, truth_mapConstants q]
  case or p q => rw [mapConstants, truth, truth, truth_mapConstants p, truth_mapConstants q]
  case not p => rw [mapConstants, truth, truth, truth_mapConstants p]
  all_goals simp only [mapConstants, truth, v.cell_mapConstants hf]
termination_by structural p

end

theorem Valuation.cell_eq_of_same {a b : Column} (h : a.same b = true) (v : Valuation) : v.cell a = v.cell b := by
  rw [← v.cell_mapConstants Value.alike_representative a, ← v.cell_mapConstants Value.alike_representative b,
    Column.mapConstants_eq_of_same Value.representative_eq_of_same a b h]

theorem Predicate.truth_eq_of_same {p q : Predicate} (h : p.same q = true) : p.truth c v = q.truth c v := by
  rw [← truth_mapConstants Value.alike_representative p, ← truth_mapConstants Value.alike_representative q,
    Predicate.mapConstants_eq_of_same Value.representative_eq_of_same p q h]

end PolySql
