import PolySql.Calendar.Date

namespace PolySql

namespace Time

-- The nanoseconds reach a second further in the last second of a minute, for a leap second.
def Valid (hour minute second nano : Nat) : Prop :=
  hour < 24 ∧ minute < 60 ∧ second < 60 ∧
    (nano < tenTo 9 ∨ (nano < 2 * tenTo 9 ∧ second = 59))

instance (hour minute second nano : Nat) : Decidable (Valid hour minute second nano) := by
  unfold Valid
  infer_instance

end Time

-- A time of day.
structure Time where
  hour : Nat
  minute : Nat
  second : Nat
  nano : Nat
  valid : Time.Valid hour minute second nano
  deriving DecidableEq

namespace Time

open Text

def make? (hour minute second nano : Nat) : Option Time :=
  if h : Valid hour minute second nano then some ⟨hour, minute, second, nano, h⟩ else none

-- A clock that shows the second 60 is in a leap second.
def ofClock? (hour minute second nano : Nat) : Option Time :=
  if second = 60 then make? hour minute 59 (nano + tenTo 9) else make? hour minute second nano

-- Nothing, or the fewest of three, six and nine places that are exact.
def placesText (nano : Nat) : List Char :=
  if nano = 0 then []
  else if nano % tenTo 6 = 0 then '.' :: padded 3 (nano / tenTo 6)
  else if nano % tenTo 3 = 0 then '.' :: padded 6 (nano / tenTo 3)
  else '.' :: padded 9 nano

def text (t : Time) : List Char :=
  padded 2 t.hour ++ ':' :: padded 2 t.minute ++ ':' ::
    padded 2 (t.second + t.nano / tenTo 9) ++ placesText (t.nano % tenTo 9)

end Time

namespace Scan

open Text

-- The digits after a point as nanoseconds; digits after the ninth count for nothing.
def places? (s : List Char) : Option (Nat × List Char) :=
  match s with
  | '.' :: r =>
    let digits := r.takeWhile Char.isDigit
    if digits.isEmpty then none
    else
      let kept := digits.take 9
      some (toNat kept * tenTo (9 - kept.length), r.drop digits.length)
  | r => some (0, r)

def clock? (field? : List Char → Option (Nat × List Char)) (s : List Char) :
    Option (Time × List Char) := do
  let (hour, s) ← field? s
  let s ← char? ':' s
  let (minute, s) ← field? s
  let s ← char? ':' s
  let (second, s) ← field? s
  let (nano, s) ← places? s
  return (← Time.ofClock? hour minute second nano, s)

def time? (s : List Char) : Option (Time × List Char) :=
  clock? field? s

end Scan

-- Reads a time that is the whole text.
def Time.read? (s : List Char) : Option Time :=
  match Scan.time? s with
  | some (t, []) => some t
  | _ => none

end PolySql
