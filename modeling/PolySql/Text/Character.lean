namespace PolySql.Text

-- A set of characters by its edges, the code points at which it begins and ends in turn: an odd number
-- of them lies at or below a member.
def within (edges : List Nat) (c : Char) : Bool :=
  (edges.takeWhile (· ≤ c.toNat)).length % 2 == 1

-- The zeros of the decimal digit sets (Unicode category `Nd`); each set is ten code points in a row.
def decimalZeros : List Nat := [
  48, 1632, 1776, 1984, 2406, 2534, 2662, 2790, 2918, 3046, 3174, 3302, 3430, 3558, 3664, 3792,
  3872, 4160, 4240, 6112, 6160, 6470, 6608, 6784, 6800, 6992, 7088, 7232, 7248, 42528, 43216,
  43264, 43472, 43504, 43600, 44016, 65296, 66720, 68912, 68928, 69734, 69872, 69942, 70096, 70384,
  70736, 70864, 71248, 71360, 71376, 71386, 71472, 71904, 72016, 72688, 72784, 73040, 73120, 73552,
  92768, 92864, 93008, 118000, 120782, 120792, 120802, 120812, 120822, 123200, 123632, 124144,
  124401, 125264, 130032]

-- A decimal digit of any script.
def isDecimalDigit (c : Char) : Bool :=
  decimalZeros.any fun base => base ≤ c.toNat && c.toNat < base + 10

-- The characters with the Unicode property `White_Space`.
def isBlank (c : Char) : Bool :=
  let n := c.toNat
  (0x9 ≤ n && n ≤ 0xD) || n == 0x20 || n == 0x85 || n == 0xA0 || n == 0x1680 ||
    (0x2000 ≤ n && n ≤ 0x200A) || n == 0x2028 || n == 0x2029 || n == 0x202F || n == 0x205F ||
    n == 0x3000

def trimStart (s : List Char) : List Char :=
  s.dropWhile isBlank

def trimEnd (s : List Char) : List Char :=
  (s.reverse.dropWhile isBlank).reverse

def trim (s : List Char) : List Char :=
  trimEnd (trimStart s)

theorem trimStart_eq_self {s : List Char} (h : ∀ c ∈ s.head?, isBlank c = false) :
    trimStart s = s := by
  cases s with
  | nil => rfl
  | cons c r => simp_all [trimStart]

-- Equality of words without regard to the case of ASCII letters.
def sameWord (a b : String) : Bool :=
  a.toList.map Char.toLower == b.toList.map Char.toLower

end PolySql.Text
