import PolySql.Text.Character
import PolySql.Text.Digits

namespace PolySql

namespace Date

def minYear : Int := -262143
def maxYear : Int := 262142

def isLeap (year : Int) : Bool :=
  year % 4 == 0 && (year % 100 != 0 || year % 400 == 0)

def daysIn (year : Int) (month : Nat) : Nat :=
  if month = 2 then (if isLeap year then 29 else 28)
  else if month = 4 ∨ month = 6 ∨ month = 9 ∨ month = 11 then 30
  else 31

def Valid (year : Int) (month day : Nat) : Prop :=
  minYear ≤ year ∧ year ≤ maxYear ∧ 1 ≤ month ∧ month ≤ 12 ∧ 1 ≤ day ∧ day ≤ daysIn year month

instance (year : Int) (month day : Nat) : Decidable (Valid year month day) := by
  unfold Valid
  infer_instance

end Date

-- A day of the proleptic Gregorian calendar.
structure Date where
  year : Int
  month : Nat
  day : Nat
  valid : Date.Valid year month day
  deriving DecidableEq

namespace Date

open Text

def make? (year : Int) (month day : Nat) : Option Date :=
  if h : Valid year month day then some ⟨year, month, day, h⟩ else none

def next? (d : Date) : Option Date :=
  if d.day < daysIn d.year d.month then make? d.year d.month (d.day + 1)
  else if d.month < 12 then make? d.year (d.month + 1) 1
  else make? (d.year + 1) 1 1

def previous? (d : Date) : Option Date :=
  if 1 < d.day then make? d.year d.month (d.day - 1)
  else if 1 < d.month then make? d.year (d.month - 1) (daysIn d.year (d.month - 1))
  else make? (d.year - 1) 12 31

-- Four digits; outside of them a sign and at least four.
def yearText (year : Int) : List Char :=
  if year < 0 then '-' :: padded 4 year.natAbs
  else if year < 10000 then padded 4 year.natAbs
  else '+' :: padded 4 year.natAbs

def text (d : Date) : List Char :=
  yearText d.year ++ '-' :: padded 2 d.month ++ '-' :: padded 2 d.day

end Date

-- Readers give what they read together with the rest of the text.
namespace Scan

open Text

def char? (c : Char) : List Char → Option (List Char)
  | d :: r => if d = c then some r else none
  | [] => none

-- A number of at most two digits after any blanks.
def field? (s : List Char) : Option (Nat × List Char) :=
  takeNatural? 1 2 (trimStart s)

-- As many digits as there are.
def digits? (s : List Char) : Option (Nat × List Char) :=
  takeNatural? 1 s.length s

-- A year of at most four digits, or of any number of digits after a sign.
def year? (s : List Char) : Option (Int × List Char) :=
  match trimStart s with
  | '-' :: r => (digits? r).map fun (n, rest) => (-(n : Int), rest)
  | '+' :: r => (digits? r).map fun (n, rest) => ((n : Int), rest)
  | r => (takeNatural? 1 4 r).map fun (n, rest) => ((n : Int), rest)

def date? (s : List Char) : Option (Date × List Char) := do
  let (year, s) ← year? s
  let s ← char? '-' s
  let (month, s) ← field? s
  let s ← char? '-' s
  let (day, s) ← field? s
  return (← Date.make? year month day, s)

end Scan

-- Reads a date that is the whole text.
def Date.read? (s : List Char) : Option Date :=
  match Scan.date? s with
  | some (d, []) => some d
  | _ => none

end PolySql
