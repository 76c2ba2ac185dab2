import PolySql.Number.Decimal

namespace PolySql.DecimalOfFloat

def fits (n : Nat) : Bool := n < twoTo 96

-- Halves a coefficient `n` times, within 96 bits; the result is one with decimal places. An odd one is
-- multiplied by five instead, which makes one more place, as long as that fits.
def halved : Nat → Nat → Nat × Nat
  | 0, c => (c, 0)
  | n + 1, c =>
    if c % 2 = 1 ∧ fits (5 * c) then
      let (c, places) := halved n (5 * c)
      (c, places + 1)
    else halved n (c / 2)

def tenth (c : Nat) : Nat :=
  c / 10 + (if c % 10 ≥ 5 then 1 else 0)

-- Drops `n` decimal places one at a time, each rounded; nothing is left of a number that reaches zero.
def shortened : Nat → Nat → Nat
  | 0, c => c
  | n + 1, c => if c / 10 = 0 then 0 else shortened n (tenth c)

-- Drops places until the coefficient is as precise as a double.
def trimmed : Nat → Nat → Nat × Nat
  | 0, c => (c, 0)
  | scale + 1, c => if twoTo 52 ≤ c then trimmed scale (tenth c) else (c, scale + 1)

def stripped : Nat → Nat → Nat × Nat
  | 0, c => (c, 0)
  | scale + 1, c => if c % 10 = 0 then stripped scale (c / 10) else (c, scale + 1)

-- The coefficient with at most 28 places.
def limited (c places : Nat) : Nat × Nat :=
  if places ≤ 28 then (c, places)
  else
    let c := shortened (places - 28) c
    (c, if c = 0 then 0 else 28)

-- `m / 2 ^ n` as far as 28 places and the precision of a double go.
def ofHalves? (negative : Bool) (m n : Nat) : Option Decimal :=
  let (c, places) := halved n m
  let (c, places) := limited c places
  let (c, places) := trimmed places c
  let (c, places) := stripped places c
  Decimal.make? negative c places

-- The decimal of a double, which is a whole number if the exponent is not negative.
def ofFloat? (x : Float) : Option Decimal :=
  match Binary64.parts x with
  | .finite negative 0 _ => Decimal.make? negative 0 0
  | .finite negative m e =>
    if e < 0 then ofHalves? negative m (-e).toNat
    else Decimal.make? negative (m * twoTo e.toNat) 0
  | _ => none

end PolySql.DecimalOfFloat
