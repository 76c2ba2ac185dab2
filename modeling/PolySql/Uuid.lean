import PolySql.Text.Digits

namespace PolySql

structure Uuid where
  octets : List UInt8
  length_octets : octets.length = 16
  deriving DecidableEq

namespace Uuid

open Text

def ofOctets? (octets : List UInt8) : Option Uuid :=
  if h : octets.length = 16 then some ⟨octets, h⟩ else none

-- Lower-case digits in groups of 8, 4, 4, 4 and 12.
def text (u : Uuid) : List Char :=
  let s := hex u.octets
  s.take 8 ++ '-' :: (s.drop 8).take 4 ++ '-' :: (s.drop 12).take 4 ++ '-' ::
    (s.drop 16).take 4 ++ '-' :: s.drop 20

def ofHex? (digits : List Char) : Option Uuid := do
  ofOctets? (← unhex? digits)

def hyphenated? (s : List Char) : Option Uuid :=
  if s.length = 36 ∧ s[8]? = some '-' ∧ s[13]? = some '-' ∧ s[18]? = some '-' ∧ s[23]? = some '-' then
    ofHex? (s.take 8 ++ (s.drop 9).take 4 ++ (s.drop 14).take 4 ++ (s.drop 19).take 4 ++ s.drop 24)
  else none

def urnMark : List Char := ['u', 'r', 'n', ':', 'u', 'u', 'i', 'd', ':']

-- The digits alone, or hyphenated, and then also in braces or as a name of the `uuid` namespace.
def read? (s : List Char) : Option Uuid :=
  if s.length = 32 then ofHex? s
  else if s.length = 38 ∧ s.head? = some '{' ∧ s.getLast? = some '}' then
    hyphenated? (s.drop 1).dropLast
  else if s.length = 45 ∧ (s.take 9).map Char.toLower = urnMark then hyphenated? (s.drop 9)
  else hyphenated? s

end Uuid

end PolySql
