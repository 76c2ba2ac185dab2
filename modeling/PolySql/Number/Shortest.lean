import PolySql.Number.Binary64

namespace PolySql.Shortest

-- The positive number `coefficient * 10 ^ exponent`.
structure Digits where
  coefficient : Nat
  exponent : Int
  deriving DecidableEq

-- The reals that round to a double, as quarters of its last place: the double itself is `4 * m`, and
-- the ends belong to the interval exactly if `m` is even. Below a power of two the gap is half as wide.
structure Interval where
  low : Nat
  value : Nat
  high : Nat
  exponent : Int
  closed : Bool

def Interval.ofParts (mantissa : Nat) (exponent : Int) : Interval where
  low := 4 * mantissa - (if mantissa = twoTo 52 ∧ exponent > -1074 then 1 else 2)
  value := 4 * mantissa
  high := 4 * mantissa + 2
  exponent := exponent - 2
  closed := mantissa % 2 = 0

-- `n * 2 ^ e` and `c * 10 ^ k` over a common denominator.
def binaryScale (e k : Int) (n : Nat) : Nat :=
  n * (if 0 ≤ e then twoTo e.toNat else 1) * (if k < 0 then tenTo (-k).toNat else 1)

def decimalScale (e k : Int) (c : Nat) : Nat :=
  c * (if 0 ≤ k then tenTo k.toNat else 1) * (if e < 0 then twoTo (-e).toNat else 1)

def Interval.holds (i : Interval) (k : Int) (c : Nat) : Bool :=
  let x := decimalScale i.exponent k c
  let low := binaryScale i.exponent k i.low
  let high := binaryScale i.exponent k i.high
  if i.closed then low ≤ x && x ≤ high else low < x && x < high

-- The last multiple of `10 ^ k` that is not above the double.
def Interval.below (i : Interval) (k : Int) : Nat :=
  binaryScale i.exponent k i.value / decimalScale i.exponent k 1

-- Of the two multiples of `10 ^ k` around the double, the one that rounds to it; of two, the nearer,
-- and of two equally near ones the larger.
def Interval.onGrid? (i : Interval) (k : Int) : Option Nat :=
  let c := i.below k
  match i.holds k c, i.holds k (c + 1) with
  | false, false => none
  | true, false => some c
  | false, true => some (c + 1)
  | true, true =>
    let value := binaryScale i.exponent k i.value
    let middle := decimalScale i.exponent k (2 * c + 1)
    some (if 2 * value < middle then c else c + 1)

-- The exponent of the leading decimal digit.
def Interval.magnitude (i : Interval) : Int :=
  let num := binaryScale i.exponent 0 i.value
  let den := decimalScale i.exponent 0 1
  if den ≤ num then (Nat.toDigits 10 (num / den)).length - 1
  else -((Nat.toDigits 10 ((den + num - 1) / num - 1)).length : Int)

-- No decimal digit ends the coefficient that could be left out.
def stripped (coefficient : Nat) (exponent : Int) : Nat → Digits
  | 0 => ⟨coefficient, exponent⟩
  | fuel + 1 =>
    if coefficient % 10 = 0 ∧ coefficient ≠ 0 then stripped (coefficient / 10) (exponent + 1) fuel
    else ⟨coefficient, exponent⟩

-- The fewest digits that read back as the double.
def Interval.digits (i : Interval) : Digits :=
  let top := i.magnitude
  let found := (List.range 17).findSome? fun (count : Nat) =>
    (i.onGrid? (top - count)).map fun c => stripped c (top - count) 17
  found.getD ⟨i.below (top - 16), top - 16⟩

end PolySql.Shortest
