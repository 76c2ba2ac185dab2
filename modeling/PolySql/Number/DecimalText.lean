import PolySql.Number.Decimal

namespace PolySql.DecimalText

open Text

-- What has been read of a number: its digits, those after the point, whether the point was met, and
-- whether there was a digit.
structure Progress where
  coefficient : Nat
  scale : Nat
  pastPoint : Bool
  anyDigit : Bool

def Progress.start : Progress := ⟨0, 0, false, false⟩

-- Drops a digit that does not fit, a half going up. If the carry itself does not fit, the last
-- place goes too.
def rounded? (negative : Bool) (p : Progress) (digit : Nat) : Option Decimal :=
  if digit < 5 then Decimal.read negative p.coefficient p.scale
  else if p.coefficient + 1 < twoTo 96 then Decimal.read negative (p.coefficient + 1) p.scale
  else if p.scale = 0 then none
  else Decimal.read negative ((p.coefficient + 5) / 10) (p.scale - 1)

def isDigitPart (c : Char) : Bool :=
  c.isDigit || c == '_'

-- Rounds by the given digit if nothing but digits and underscores follows it.
def roundedBefore? (negative : Bool) (p : Progress) (digit : Char) (rest : List Char) :
    Option Decimal :=
  if rest.all isDigitPart then rounded? negative p (digit.toNat - '0'.toNat) else none

-- Up to here a coefficient can take one more digit and surely stay one of 64 bits.
def wordLimit : Nat :=
  (twoTo 64 - 1) / 10 - 255

-- Rounds at the place after the last one that is kept. Underscores before its digit are passed over,
-- but after a coefficient of 64 bits one of them stands for a zero.
def roundedAt? (negative : Bool) (p : Progress) : List Char → Option Decimal
  | [] => rounded? negative p 0
  | c :: r =>
    if c = '_' then
      if p.coefficient / 10 < wordLimit then roundedBefore? negative p '0' r
      else roundedAt? negative p r
    else if c.isDigit then roundedBefore? negative p c r
    else none

def digits? (negative : Bool) (p : Progress) : List Char → Option Decimal
  | [] => if p.anyDigit then Decimal.read negative p.coefficient p.scale else none
  | c :: r =>
    if p.pastPoint && p.scale == 28 && p.anyDigit then roundedAt? negative p (c :: r)
    else if c.isDigit then
      let coefficient := 10 * p.coefficient + (c.toNat - '0'.toNat)
      if coefficient < twoTo 96 then
        digits? negative ⟨coefficient, if p.pastPoint then p.scale + 1 else 0, p.pastPoint, true⟩ r
      else if p.pastPoint then roundedBefore? negative p c r
      else none
    else if c = '.' ∧ !p.pastPoint then digits? negative { p with pastPoint := true } r
    else if c = '_' ∧ p.anyDigit then digits? negative p r
    else none

def plain? : List Char → Option Decimal
  | [] => none
  | '-' :: r => digits? true .start r
  | '+' :: r => digits? false .start r
  | r => digits? false .start r

-- Moves the point to the right; a number without places is multiplied instead.
def shiftedUp? (d : Decimal) (n : Nat) : Option Decimal :=
  if n ≤ d.scale then Decimal.make? d.negative d.coefficient (d.scale - n)
  else if n ≤ 28 then
    Decimal.make? d.negative (d.coefficient * tenTo (n - d.scale)) 0
  else none

-- Moves the point to the left; places beyond the last are rounded away, a half going up.
def shiftedDown? (d : Decimal) (n : Nat) : Option Decimal :=
  if 28 < n then none
  else if d.scale + n ≤ 28 then Decimal.make? d.negative d.coefficient (d.scale + n)
  else
    let unit := tenTo (d.scale + n - 28)
    Decimal.make? d.negative ((d.coefficient + unit / 2) / unit) 28

def shifted? (d : Decimal) : List Char → Option Decimal
  | '-' :: r => (unsigned? r).bind (shiftedDown? d)
  | r => (unsigned? r).bind (shiftedUp? d)

def isExponentMark (c : Char) : Bool :=
  c == 'e' || c == 'E'

-- Digits with at most one point, with underscores after the first digit, and with an exponent of at
-- most 28. Places that do not fit are rounded away, a whole part that does not fit is refused.
def read? (s : List Char) : Option Decimal :=
  match s.dropWhile (!isExponentMark ·) with
  | [] => plain? s
  | _ :: exponent => do shifted? (← plain? (s.takeWhile (!isExponentMark ·))) exponent

end PolySql.DecimalText
