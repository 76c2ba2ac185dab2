import PolySql.Dialect.Identifier
import PolySql.Dialect.Representation

namespace PolySql

-- The parts that the text of a statement is made of.
inductive Piece
  | words (s : String)
  | name (s : String)
  | literal (v : Value)
  | param (v : Value)

-- A stretch of a statement that knows neither what comes before it nor its vendor.
abbrev Fragment := List Piece

namespace Piece

-- The text of a piece before which `bound` parameters stand.
def text (d : Dialect) (bound : Nat) : Piece → String
  | words s => s
  | name s => d.identifier s
  | literal v => d.literal v
  | param _ => d.placeholder.text (bound + 1)

def param? : Piece → Option Value
  | param v => some v
  | _ => none

end Piece

namespace Fragment

def words (s : String) : Fragment := [.words s]

def name (s : String) : Fragment := [.name s]

def params (f : Fragment) : List Value :=
  f.filterMap Piece.param?

def texts (d : Dialect) (bound : Nat) : Fragment → List String
  | [] => []
  | p :: r => p.text d bound :: texts d (bound + p.param?.toList.length) r

-- The text with placeholders counted on from `bound`.
def text (d : Dialect) (bound : Nat) (f : Fragment) : String :=
  String.join (f.texts d bound)

def joined (separator : String) : List Fragment → Fragment
  | [] => []
  | [f] => f
  | f :: r => f ++ .words separator :: joined separator r

def parenthesised (f : Fragment) : Fragment :=
  .words "(" :: f ++ [.words ")"]

-- Names in parentheses.
def nameList (names : List String) : Fragment :=
  parenthesised (joined ", " (names.map name))

end Fragment

end PolySql
