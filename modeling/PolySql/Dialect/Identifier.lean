import PolySql.Dialect.Basic

namespace PolySql.Dialect

open Text

def isWordStart (c : Char) : Bool :=
  c.isAlpha || c == '_'

def isWordChar (c : Char) : Bool :=
  c.isAlphanum || c == '_'

-- A name that a lexer takes for one word.
def isPlain : List Char → Bool
  | [] => false
  | c :: r => isWordStart c && r.all isWordChar

def upperWord (s : List Char) : String :=
  String.ofList (s.map Char.toUpper)

def isKeyword (d : Dialect) (name : String) : Bool :=
  let word := upperWord name.toList
  Keywords.common.contains word || d.keywords.contains word

def isMixedCase (s : List Char) : Bool :=
  s.any Char.isUpper && s.any Char.isLower

-- Would the name be read as another one, or not as a name, without quotes?
def needsQuotes (d : Dialect) (name : String) : Bool :=
  !isPlain name.toList || d.isKeyword name ||
    (d.identifierCase != .preserve && isMixedCase name.toList)

def fold (d : Dialect) (s : List Char) : List Char :=
  match d.identifierCase with
  | .upper => s.map Char.toUpper
  | .lower => s.map Char.toLower
  | .preserve => s

-- The name in the text of a statement.
def identifier (d : Dialect) (name : String) : String :=
  String.ofList <|
    if d.needsQuotes name then enclosed d.openQuote d.closeQuote name.toList
    else d.fold name.toList

-- The name in the vendor's catalog.
def storedName (d : Dialect) (name : String) : String :=
  if d.needsQuotes name then name else String.ofList (d.fold name.toList)

end PolySql.Dialect
