import PolySql.Error
import PolySql.Text.Character
import PolySql.Text.Digits

namespace PolySql

structure Version where
  major : UInt32
  minor : UInt32
  patch : UInt32
  deriving DecidableEq

namespace Version

open Text

def order (a b : Version) : Ordering :=
  (compare a.major b.major).then ((compare a.minor b.minor).then (compare a.patch b.patch))

def atLeast (actual required : Version) : Bool :=
  actual.order required != .lt

def text (v : Version) : String :=
  String.ofList
    (ofNat v.major.toNat ++ '.' :: ofNat v.minor.toNat ++ '.' :: ofNat v.patch.toNat)

-- The next run of digits, if a point and a digit come next.
def nextRun (s : List Char) : List Char × List Char :=
  match s with
  | '.' :: r => (r.takeWhile isDecimalDigit, r.dropWhile isDecimalDigit)
  | r => ([], r)

-- A missing component is zero; a present one has to be a number of 32 bits in plain digits.
def component? (run : List Char) : Option UInt32 :=
  if run.isEmpty then some 0
  else do
    let n ← natural? run
    if n < twoTo 32 then some (UInt32.ofNat n) else none

-- The first run of digits and up to two more, each after a point.
def parts? (s : List Char) : Option Version := do
  let s := s.dropWhile (!isDecimalDigit ·)
  if s.isEmpty then none
  let (minor, rest) := nextRun (s.dropWhile isDecimalDigit)
  let patch := if minor.isEmpty then [] else (nextRun rest).1
  return ⟨← component? (s.takeWhile isDecimalDigit), ← component? minor, ← component? patch⟩

-- The version in a server's banner.
def parse (banner : String) : Result Version :=
  match parts? banner.toList with
  | some v => .ok v
  | none => .error (.config ("Unrecognized server version '" ++ banner ++ "'"))

end Version

-- What is known of a server. The first version that is stored stays until it is forgotten.
structure Snapshot where
  version : Option Version
  deriving DecidableEq

namespace Snapshot

def empty : Snapshot := ⟨none⟩

def store (s : Snapshot) (v : Version) : Snapshot :=
  { s with version := some (s.version.getD v) }

def refresh (s : Snapshot) : Snapshot :=
  { s with version := none }

end Snapshot

end PolySql
