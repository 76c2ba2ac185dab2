import PolySql.Text.Digits

namespace PolySql.Binary64

-- A double as sign, integer and power of two; the integer of an ordinary number is below `2 ^ 53`.
inductive Parts
  | notANumber
  | infinite (negative : Bool)
  | finite (negative : Bool) (mantissa : Nat) (exponent : Int)

def parts (x : Float) : Parts :=
  let bits : Nat := x.toBits.toNat
  let negative := bits / twoTo 63 == 1
  let biased : Nat := bits / twoTo 52 % twoTo 11
  let fraction : Nat := bits % twoTo 52
  if biased = 2047 then
    if fraction = 0 then .infinite negative else .notANumber
  else if biased = 0 then .finite negative fraction (-1074)
  else .finite negative (fraction + twoTo 52) (biased - 1075)

-- The quotient rounded to the nearest integer, a half to the even one.
def roundedDiv (num den : Nat) : Nat :=
  let q := num / den
  let rest := num % den
  if 2 * rest < den then q
  else if 2 * rest > den then q + 1
  else if q % 2 = 0 then q else q + 1

-- `num / den * 2 ^ (-e)` as a fraction.
def scaled (num den : Nat) (e : Int) : Nat × Nat :=
  if 0 ≤ e then (num, den * twoTo e.toNat) else (num * twoTo (-e).toNat, den)

-- The largest `e` with `2 ^ e ≤ num / den`.
def floorLog2 (num den : Nat) : Int :=
  let guess := (Nat.log2 num : Int) - Nat.log2 den
  let (n, d) := scaled num den guess
  if n < d then guess - 1 else guess

def ofBits (negative : Bool) (magnitude : Nat) : Float :=
  .ofBits (UInt64.ofNat ((if negative then twoTo 63 else 0) + magnitude))

def infinity (negative : Bool) : Float :=
  ofBits negative (2047 * twoTo 52)

def notANumber : Float :=
  ofBits false (2047 * twoTo 52 + twoTo 51)

-- The double nearest to `num / den`, of two equally near ones the even one.
def ofRatio (negative : Bool) (num den : Nat) : Float :=
  if num = 0 then ofBits negative 0
  else
    let e := max (floorLog2 num den - 52) (-1074)
    let (n, d) := scaled num den e
    let m := roundedDiv n d
    if m < twoTo 52 then ofBits negative m
    else
      let magnitude := (e + 1074).toNat * twoTo 52 + m
      ofBits negative (min magnitude (2047 * twoTo 52))

def ofInt (i : Int) : Float :=
  if i = 0 then ofBits false 0 else ofRatio (i < 0) i.natAbs 1

-- The double nearest to `coefficient * 10 ^ exponent`. Outside the range of doubles the size of the
-- number alone decides.
def ofScientific (negative : Bool) (coefficient : Nat) (exponent : Int) : Float :=
  if coefficient = 0 then ofBits negative 0
  else
    let size := (Nat.toDigits 10 coefficient).length + exponent
    if size > 310 then infinity negative
    else if size < -330 then ofBits negative 0
    else if 0 ≤ exponent then ofRatio negative (coefficient * tenTo exponent.toNat) 1
    else ofRatio negative coefficient (tenTo (-exponent).toNat)

def isFinite (x : Float) : Bool :=
  match parts x with
  | .finite .. => true
  | _ => false

end PolySql.Binary64
