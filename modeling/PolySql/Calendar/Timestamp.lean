import PolySql.Calendar.Time

namespace PolySql

-- A day and a time of it; where a zone is meant, that of UTC.
structure Timestamp where
  date : Date
  time : Time
  deriving DecidableEq

namespace Timestamp

open Text

def text (separator : Char) (t : Timestamp) : List Char :=
  t.date.text ++ separator :: t.time.text

-- The spelling of the internet's timestamps, in UTC.
def zonedText (t : Timestamp) : List Char :=
  t.text 'T' ++ ['Z']

-- The same clock `minutes` earlier, if the calendar reaches that far; less than a day either way.
def earlier? (t : Timestamp) (minutes : Int) : Option Timestamp :=
  let total : Int := t.time.hour * 60 + t.time.minute - minutes
  let ofDay := (total % 1440).toNat
  match Time.make? (ofDay / 60) (ofDay % 60) t.time.second t.time.nano with
  | none => none
  | some time =>
    if total < 0 then t.date.previous?.map (⟨·, time⟩)
    else if total < 1440 then some ⟨t.date, time⟩
    else t.date.next?.map (⟨·, time⟩)

end Timestamp

namespace Scan

open Text

-- A date and a time with the given reader between them.
def timestamp? (between? : List Char → Option (List Char)) (s : List Char) :
    Option (Timestamp × List Char) := do
  let (date, s) ← date? s
  let s ← between? s
  let (time, s) ← time? s
  return (⟨date, time⟩, s)

def twoDigits? (s : List Char) : Option (Nat × List Char) :=
  takeNatural? 2 2 s

def isColonOrBlank (c : Char) : Bool :=
  c == ':' || isBlank c

def sign? : List Char → Option (Bool × List Char)
  | '+' :: r => some (false, r)
  | '-' :: r => some (true, r)
  | '−' :: r => some (true, r)
  | _ => none

-- The minutes by which a clock is ahead of UTC. The separator of hours and minutes is read by
-- `between?`; the minutes may be left out at the end of the text if `shortForm` holds.
def offset? (between? : List Char → Option (List Char)) (shortForm : Bool) (s : List Char) :
    Option (Int × List Char) :=
  match s with
  | 'Z' :: r => some (0, r)
  | 'z' :: r => some (0, r)
  | s => do
    let (negative, s) ← sign? s
    let (hours, s) ← twoDigits? s
    let s ← between? s
    let (minutes, s) ←
      if s.isEmpty && shortForm then some (0, s) else twoDigits? s
    if 59 < minutes then none
    let total : Int := hours * 60 + minutes
    if 1440 ≤ total then none
    return (if negative then -total else total, s)

def internetDate? (s : List Char) : Option (Date × List Char) := do
  let (year, s) ← takeNatural? 4 4 s
  let s ← char? '-' s
  let (month, s) ← twoDigits? s
  let s ← char? '-' s
  let (day, s) ← twoDigits? s
  return (← Date.make? year month day, s)

def internetSeparator? : List Char → Option (List Char)
  | 'T' :: r => some r
  | 't' :: r => some r
  | ' ' :: r => some r
  | _ => none

def internetTimestamp? (s : List Char) : Option Timestamp := do
  let (date, s) ← internetDate? s
  let s ← internetSeparator? s
  let (time, s) ← clock? twoDigits? s
  match ← offset? (char? ':') false s with
  | (minutes, []) => Timestamp.earlier? ⟨date, time⟩ minutes
  | _ => none

-- A timestamp with a blank in the middle and a loosely written offset.
def looseTimestamp? (s : List Char) : Option Timestamp := do
  let (t, s) ← timestamp? (fun s => some (trimStart s)) s
  match ← offset? (fun s => some (s.dropWhile isColonOrBlank)) true (trimStart s) with
  | (minutes, []) => t.earlier? minutes
  | _ => none

end Scan

namespace Timestamp

open Text

def readWith? (between? : List Char → Option (List Char)) (s : List Char) : Option Timestamp :=
  match Scan.timestamp? between? s with
  | some (t, []) => some t
  | _ => none

-- Reads a timestamp without a zone, with blanks or a `T` in the middle.
def read? (s : List Char) : Option Timestamp :=
  readWith? (fun s => some (trimStart s)) s <|> readWith? (Scan.char? 'T') s

-- Reads a timestamp with a zone as the same moment in UTC.
def readZoned? (s : List Char) : Option Timestamp :=
  Scan.internetTimestamp? s <|> Scan.looseTimestamp? s

end Timestamp

end PolySql
