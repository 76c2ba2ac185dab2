namespace PolySql

abbrev twoTo (n : Nat) : Nat := Nat.pow 2 n

abbrev tenTo (n : Nat) : Nat := Nat.pow 10 n

namespace Text

def ofNat (n : Nat) : List Char :=
  Nat.toDigits 10 n

def ofInt (i : Int) : List Char :=
  if i < 0 then '-' :: ofNat i.natAbs else ofNat i.natAbs

-- At least `width` digits, with leading zeros.
def padded (width n : Nat) : List Char :=
  let digits := ofNat n
  List.replicate (width - digits.length) '0' ++ digits

-- The value of a run of decimal digits.
def toNat (digits : List Char) : Nat :=
  Nat.ofDigitChars 10 digits 0

theorem toNat_ofNat (n : Nat) : toNat (ofNat n) = n :=
  Nat.ofDigitChars_toDigits (by decide) (by decide)

-- A number written with digits only.
def natural? (s : List Char) : Option Nat :=
  if !s.isEmpty && s.all Char.isDigit then some (toNat s) else none

-- A number with or without a plus sign.
def unsigned? : List Char → Option Nat
  | '+' :: r => natural? r
  | r => natural? r

-- A number with an optional sign.
def integer? (s : List Char) : Option Int :=
  match s with
  | '-' :: r => (natural? r).map fun n => -(n : Int)
  | '+' :: r => (natural? r).map fun n => (n : Int)
  | r => (natural? r).map fun n => (n : Int)

-- Reads between `least` and `most` digits; the rest of the text follows the number.
def takeNatural? (least most : Nat) (s : List Char) : Option (Nat × List Char) :=
  let digits := (s.take most).takeWhile Char.isDigit
  if digits.length < least then none else some (toNat digits, s.drop digits.length)

def hexDigit (n : Nat) : Char :=
  Nat.digitChar n

-- The value of a hexadecimal digit in either case.
def hexValue? (c : Char) : Option Nat :=
  if '0' ≤ c ∧ c ≤ '9' then some (c.toNat - '0'.toNat)
  else if 'a' ≤ c ∧ c ≤ 'f' then some (c.toNat - 'a'.toNat + 10)
  else if 'A' ≤ c ∧ c ≤ 'F' then some (c.toNat - 'A'.toNat + 10)
  else none

-- Two lower-case digits for every byte.
def hex (bytes : List UInt8) : List Char :=
  bytes.flatMap fun b => [hexDigit (b.toNat / 16), hexDigit (b.toNat % 16)]

def upperHex (bytes : List UInt8) : List Char :=
  (hex bytes).map Char.toUpper

-- Pairs of hexadecimal digits as bytes.
def unhex? : List Char → Option (List UInt8)
  | [] => some []
  | [_] => none
  | a :: b :: r => do
    let high ← hexValue? a
    let low ← hexValue? b
    let rest ← unhex? r
    return UInt8.ofNat (16 * high + low) :: rest

end Text

end PolySql
