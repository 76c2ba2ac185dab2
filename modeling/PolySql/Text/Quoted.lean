import PolySql.Text.Digits
import PolySql.Text.Visible

namespace PolySql.Text

-- Every occurrence of the character `q` is written twice.
def doubled (q : Char) : List Char → List Char
  | [] => []
  | c :: r => if c = q then q :: q :: doubled q r else c :: doubled q r

-- A text between two marks, with the closing mark doubled inside.
def enclosed (openMark closeMark : Char) (s : List Char) : List Char :=
  openMark :: doubled closeMark s ++ [closeMark]

def singleQuote : Char := '\x27'

-- A character string of the standard's lexical form.
def singleQuoted (s : List Char) : List Char :=
  enclosed singleQuote singleQuote s

def escapedChar (c : Char) : List Char :=
  if c = '"' then ['\\', '"']
  else if c = '\\' then ['\\', '\\']
  else if c = '\n' then ['\\', 'n']
  else if c = '\r' then ['\\', 'r']
  else if c = '\t' then ['\\', 't']
  else if c.toNat = 0 then ['\\', '0']
  else if isVisible c then [c]
  else ['\\', 'u', '{'] ++ Nat.toDigits 16 c.toNat ++ ['}']

-- A text as diagnostics show it: in double quotes, with every character visible.
def shown (s : List Char) : List Char :=
  '"' :: s.flatMap escapedChar ++ ['"']

end PolySql.Text
