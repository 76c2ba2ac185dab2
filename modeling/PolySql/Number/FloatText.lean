import PolySql.Number.Shortest
import PolySql.Text.Digits

namespace PolySql.FloatText

open Text

-- How numbers are laid out: positional where the exponent of the leading digit lies in the range,
-- and then with at least one decimal.
structure Layout where
  leastExponent : Int
  mostExponent : Int

def layout : Layout := ⟨-4, 15⟩

-- The digits with the point after the first `n` of them.
def pointed (digits : List Char) (n : Nat) : List Char :=
  let whole := digits.take n
  let rest := digits.drop n
  (if whole.isEmpty then ['0'] else whole) ++ '.' :: (if rest.isEmpty then ['0'] else rest)

def positional (coefficient : Nat) (exponent : Int) : List Char :=
  if 0 ≤ exponent then
    ofNat (coefficient * tenTo exponent.toNat) ++ ['.', '0']
  else
    let places := (-exponent).toNat
    let digits := padded (places + 1) coefficient
    pointed digits (digits.length - places)

def scientific (coefficient : Nat) (exponent : Int) : List Char :=
  let digits := ofNat coefficient
  let lead := exponent + (digits.length - 1 : Nat)
  let body := match digits with
    | first :: (second :: rest) => first :: '.' :: second :: rest
    | short => short
  body ++ 'e' :: ofInt lead

def magnitude (mantissa : Nat) (exponent : Int) : List Char :=
  if mantissa = 0 then ['0', '.', '0']
  else
    let d := (Shortest.Interval.ofParts mantissa exponent).digits
    let lead := d.exponent + ((ofNat d.coefficient).length - 1 : Nat)
    if layout.leastExponent ≤ lead ∧ lead ≤ layout.mostExponent then
      positional d.coefficient d.exponent
    else scientific d.coefficient d.exponent

-- The fewest digits that read back as the same double.
def render (x : Float) : List Char :=
  match Binary64.parts x with
  | .notANumber => ['N', 'a', 'N']
  | .infinite true => ['-', 'i', 'n', 'f']
  | .infinite false => ['i', 'n', 'f']
  | .finite true m e => '-' :: magnitude m e
  | .finite false m e => magnitude m e

-- The decimal exponent after an `e`; without one it is zero.
def exponent? : List Char → Option Int
  | [] => some 0
  | c :: r => if c = 'e' ∨ c = 'E' then integer? r else none

def finite? (negative : Bool) (s : List Char) : Option Float := do
  let whole := s.takeWhile Char.isDigit
  let rest := s.dropWhile Char.isDigit
  let (places, rest) := match rest with
    | '.' :: r => (r.takeWhile Char.isDigit, r.dropWhile Char.isDigit)
    | r => ([], r)
  if whole.isEmpty && places.isEmpty then none
  let e ← exponent? rest
  return Binary64.ofScientific negative (toNat (whole ++ places)) (e - places.length)

def special? (negative : Bool) (s : List Char) : Option Float :=
  let word := String.ofList (s.map Char.toLower)
  if word = "inf" ∨ word = "infinity" then some (Binary64.infinity negative)
  else if word = "nan" then some Binary64.notANumber
  else none

-- Reads a decimal number, an infinity or a `nan`, with an optional sign.
def read? (s : List Char) : Option Float :=
  let (negative, s) := match s with
    | '-' :: r => (true, r)
    | '+' :: r => (false, r)
    | r => (false, r)
  finite? negative s <|> special? negative s

end PolySql.FloatText
