import Mathlib.Algebra.Order.Field.Rat
import Mathlib.Order.WithBot
import Mathlib.Tactic.FieldSimp
import PolySql.Value

namespace PolySql

-- The numbers of SQL, with the infinities. What is not a number is equal to itself and above all others.
abbrev Number := WithTop (WithBot (WithTop ℚ))

namespace Number

def ofRat (q : ℚ) : Number :=
  ((q : WithTop ℚ) : WithBot (WithTop ℚ))

def ofDecimal (d : Decimal) : Number :=
  ofRat ((if d.negative then -(d.coefficient : ℚ) else d.coefficient) / 10 ^ d.scale)

def ofUnpacked : Float.Model.UnpackedFloat → Number
  | .notANumber => ⊤
  | .infinity .positive => ((⊤ : WithTop ℚ) : WithBot (WithTop ℚ))
  | .infinity .negative => (⊥ : WithBot (WithTop ℚ))
  | .zero _ => ofRat 0
  | .finite .positive mantissa exponent _ => ofRat (mantissa * 2 ^ exponent)
  | .finite .negative mantissa exponent _ => ofRat (-(mantissa * 2 ^ exponent))

def ofFloat (x : Float) : Number :=
  ofUnpacked x.toModel.unpack

-- Decimals are equal as numbers if they are the same multiple of the least one.
theorem ofDecimal_eq_of_sameNumber {a b : Decimal} (h : a.sameNumber b = true) : ofDecimal a = ofDecimal b := by
  have hscaled (d : Decimal) : ofDecimal d = ofRat (d.scaledValue / 10 ^ 28) := by
    have hpow : (10 : ℚ) ^ 28 = 10 ^ (28 - d.scale) * 10 ^ d.scale := by
      rw [← pow_add, Nat.sub_add_cancel d.scale_le]
    rw [ofDecimal, hpow]
    congr 1
    cases hn : d.negative <;> simp [Decimal.scaledValue, hn] <;> field_simp
  rw [hscaled, hscaled, beq_iff_eq.mp h]

-- Two doubles that are equal are one, or both are zero.
theorem ofUnpacked_eq_of_compare {a b : Float.Model.UnpackedFloat} (h : a.compare b = some .eq) :
    ofUnpacked a = ofUnpacked b := by
  have hfinite {e f : ℤ} {m n : ℕ} (h : (compare e f).then (compare m n) = .eq) : e = f ∧ m = n := by
    rwa [Ordering.then_eq_eq, compare_eq_iff_eq, compare_eq_iff_eq] at h
  cases a <;> cases b
  case infinity.infinity s t => cases s <;> cases t <;> first | rfl | cases h
  case infinity.zero s _ | infinity.finite s _ _ _ _ => cases s <;> cases h
  case zero.infinity _ s | zero.finite _ s _ _ _ => cases s <;> cases h
  case finite.infinity s | finite.zero s _ _ _ _ => cases s <;> cases h
  case zero.zero => rfl
  case finite.finite s m e _ t n f _ =>
    cases s <;> cases t
    case positive.positive =>
      obtain ⟨rfl, rfl⟩ := hfinite (Option.some.inj h)
      rfl
    case negative.negative =>
      obtain ⟨rfl, rfl⟩ := hfinite (Ordering.swap_eq_eq.mp (Option.some.inj h))
      rfl
    all_goals cases h
  all_goals cases h

theorem ofFloat_eq_of_beq {x y : Float} (h : (x == y) = true) : ofFloat x = ofFloat y := by
  have h : x.toModel.unpack.beq y.toModel.unpack = true := h
  exact ofUnpacked_eq_of_compare (beq_iff_eq.mp h)

end Number

-- What a value is in comparisons: numbers of all kinds are one sort.
inductive Datum
  | number (x : Number)
  | bool (b : Bool)
  | text (s : String)
  | bytes (b : List UInt8)
  | uuid (u : Uuid)
  | date (d : Date)
  | time (t : Time)
  | timestamp (t : Timestamp)
  | timestampTz (t : Timestamp)

namespace Value

-- The datum of a value that is not `NULL`.
def datum? : Value → Option Datum
  | null => none
  | bool b => some (.bool b)
  | int i => some (.number (.ofRat i.toInt))
  | float x => some (.number (.ofFloat x))
  | decimal d => some (.number (.ofDecimal d))
  | text s => some (.text s)
  | bytes b => some (.bytes b)
  | uuid u => some (.uuid u)
  | date d => some (.date d)
  | time t => some (.time t)
  | timestamp t => some (.timestamp t)
  | timestampTz t => some (.timestampTz t)

-- Values of one kind that are the same datum: they differ at most in how a number is written.
def Alike (v w : Value) : Prop :=
  v.kindName = w.kindName ∧ v.datum? = w.datum?

theorem Alike.of_same {v w : Value} (h : v.same w = true) : v.Alike w := by
  cases v <;> cases w <;> simp only [same, Bool.false_eq_true] at h
  case float => exact ⟨rfl, congrArg (some ∘ Datum.number) (Number.ofFloat_eq_of_beq h)⟩
  case decimal => exact ⟨rfl, congrArg (some ∘ Datum.number) (Number.ofDecimal_eq_of_sameNumber h)⟩
  case null => exact ⟨rfl, rfl⟩
  all_goals
    rw [beq_iff_eq] at h
    exact h ▸ ⟨rfl, rfl⟩

instance alikeSetoid : Setoid Value where
  r := Alike
  iseqv := {
    refl _ := ⟨rfl, rfl⟩
    symm h := ⟨h.1.symm, h.2.symm⟩
    trans h k := ⟨h.1.trans k.1, h.2.trans k.2⟩
  }

-- One of the values that are like a given one.
noncomputable def representative (v : Value) : Value :=
  (Quotient.mk alikeSetoid v).out

theorem alike_representative (v : Value) : v.representative.Alike v :=
  Quotient.mk_out v

theorem representative_eq_of_same {v w : Value} (h : v.same w = true) : v.representative = w.representative :=
  congrArg Quotient.out (Quotient.sound (Alike.of_same h))

end Value

end PolySql
