import PolySql.Number.Binary64
import PolySql.Text.Digits

namespace PolySql

-- A decimal number with a fixed number of places; the places are kept, so `1.5` and `1.50` differ.
structure Decimal where
  negative : Bool
  coefficient : Nat
  scale : Nat
  coefficient_lt : coefficient < twoTo 96
  scale_le : scale ≤ 28
  deriving DecidableEq

namespace Decimal

def make? (negative : Bool) (coefficient scale : Nat) : Option Decimal :=
  if h : coefficient < twoTo 96 ∧ scale ≤ 28 then some ⟨negative, coefficient, scale, h.1, h.2⟩
  else none

-- As `make?`, but zero has no sign.
def read (negative : Bool) (coefficient scale : Nat) : Option Decimal :=
  make? (negative && coefficient != 0) coefficient scale

def ofInt64 (i : Int64) : Decimal where
  negative := i.toInt < 0
  coefficient := i.toInt.natAbs
  scale := 0
  coefficient_lt := by
    have low := i.le_toInt
    have high := i.toInt_lt
    have bound : 18446744073709551616 < twoTo 96 := by decide
    omega
  scale_le := by decide

def text (d : Decimal) : List Char :=
  let digits := Text.padded (d.scale + 1) d.coefficient
  let whole := digits.take (digits.length - d.scale)
  let places := digits.drop (digits.length - d.scale)
  (if d.negative then ['-'] else []) ++ whole ++ (if d.scale = 0 then [] else '.' :: places)

-- The number that all decimals of one value share, as a multiple of `10 ^ (-28)`.
def scaledValue (d : Decimal) : Int :=
  let magnitude : Int := (d.coefficient * tenTo (28 - d.scale) : Nat)
  if d.negative then -magnitude else magnitude

-- Equality as numbers.
def sameNumber (a b : Decimal) : Bool :=
  a.scaledValue == b.scaledValue

def isInteger (d : Decimal) : Bool :=
  d.coefficient % tenTo d.scale == 0

def truncated (d : Decimal) : Int :=
  let whole : Int := (d.coefficient / tenTo d.scale : Nat)
  if d.negative then -whole else whole

-- Squares and products of doubles in the order of the exponent's binary digits.
def powTen (exponent : Nat) : Float :=
  go exponent 1.0 10.0 exponent
where
  go (n : Nat) (product base : Float) : Nat → Float
    | 0 => product
    | fuel + 1 =>
      let product := if n % 2 = 1 then product * base else product
      if n / 2 = 0 then product else go (n / 2) product (base * base) fuel

-- The whole part plus the decimal places, rounded once more to the decimal's own places.
def toFloat (d : Decimal) : Float :=
  let signed (x : Float) : Float := if d.negative then -x else x
  if d.scale = 0 then Binary64.ofInt (if d.negative then -d.coefficient else d.coefficient)
  else
    let unit := tenTo d.scale
    let whole := Binary64.ofRatio false (d.coefficient / unit) 1
    let places := Binary64.ofRatio false (d.coefficient % unit) 1 / Binary64.ofRatio false unit 1
    if places == 0 then signed whole
    else
      let roundTo := powTen d.scale
      signed (((whole + places) * roundTo).round / roundTo)

end Decimal

end PolySql
