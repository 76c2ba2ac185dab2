import PolySql.Error

namespace PolySql

-- Structured data, the form in which requests arrive.
inductive Document
  | null
  | bool (b : Bool)
  | number (n : Int)
  | text (s : String)
  | list (items : List Document)
  | record (fields : List (String × Document))

-- Why data could not be read: it has the wrong shape, or what it describes is refused.
inductive ReadError
  | malformed (what : String)
  | refused (e : DatabaseError)

abbrev Reader (α : Type) := Except ReadError α

namespace Reader

variable {α : Type}

def malformed (what : String) : Reader α :=
  .error (.malformed what)

def ofOption (what : String) : Option α → Reader α
  | some a => .ok a
  | none => malformed what

def ofResult (r : Result α) : Reader α :=
  r.mapError .refused

end Reader

namespace Document

mutual

def depth : Document → Nat
  | .list items => depthOfItems items + 1
  | .record fields => depthOfFields fields + 1
  | _ => 1

def depthOfItems : List Document → Nat
  | [] => 0
  | d :: r => max d.depth (depthOfItems r)

def depthOfFields : List (String × Document) → Nat
  | [] => 0
  | (_, d) :: r => max d.depth (depthOfFields r)

end

def fields : Document → List (String × Document)
  | record fields => fields
  | _ => []

def has (d : Document) (key : String) : Bool :=
  d.fields.any (·.1 == key)

-- A field that is missing is the same as one that is empty.
def field (d : Document) (key : String) : Document :=
  (d.fields.lookup key).getD null

def isNull : Document → Bool
  | null => true
  | _ => false

def isTrue : Document → Bool
  | bool b => b
  | _ => false

def flag (d : Document) (key : String) : Bool :=
  (d.field key).isTrue

-- A flag with a value of its own where it is missing.
def flagOr (d : Document) (key : String) (default : Bool) : Bool :=
  if (d.field key).isNull then default else d.flag key

def string : Document → Reader String
  | text s => .ok s
  | _ => Reader.malformed "expected a text"

def integer : Document → Reader Int
  | number n => .ok n
  | _ => Reader.malformed "expected a number"

def natural (d : Document) : Reader Nat := do
  return (← d.integer).toNat

def items : Document → Reader (List Document)
  | list items => .ok items
  | null => .ok []
  | _ => Reader.malformed "expected a list"

-- Data that may be missing.
def optional {α : Type} (d : Document) (read : Document → Reader α) : Reader (Option α) :=
  match d with
  | null => .ok none
  | d => (read d).map some

def listOf {α : Type} (d : Document) (read : Document → Reader α) : Reader (List α) := do
  (← d.items).mapM read

def strings (d : Document) : Reader (List String) :=
  d.listOf string

-- One of the choices, by its name.
def named {α : Type} (d : Document) (what : String) (choices : List (String × α)) : Reader α := do
  Reader.ofOption what (choices.lookup (← d.string))

-- One of the entries of `all`, by the name that it has itself.
def oneOf {α : Type} (d : Document) (what : String) (all : List α) (name : α → String) :
    Reader α := do
  let s ← d.string
  Reader.ofOption what (all.find? (name · == s))

end Document

end PolySql
