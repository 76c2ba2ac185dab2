import PolySql.ColumnType
import PolySql.HostType
import PolySql.Text.Character
import PolySql.Transaction.World

namespace PolySql

-- A decoded row, with the names of its columns as the server gives them.
structure Row where
  columns : List String
  values : List Value

-- Where in a row a value is looked for.
inductive Place
  | position (i : Nat)
  | named (name : String)

namespace Row

def get (r : Row) (type : HostType) (i : Nat) : Result Value :=
  match r.values[i]? with
  | some v => type.convert v
  | none =>
    .error (.compilation ("No column " ++ toString i ++ " in a row of " ++ toString r.values.length ++
      " columns"))

-- The value of the first column of the name, in any case.
def getNamed (r : Row) (type : HostType) (name : String) : Result Value :=
  match r.columns.findIdx? (Text.sameWord · name) with
  | some i => r.get type i
  | none => .error (.compilation ("No column named `" ++ name ++ "`"))

def find (r : Row) (type : HostType) : Place → Result Value
  | .position i => r.get type i
  | .named name => r.getNamed type name

end Row

-- The rows of a query that were not read yet.
structure Rows where
  columns : List String
  types : List (Option ColumnType)
  remaining : List Cells

namespace Rows

def ofAnswer (types : List (Option ColumnType)) (a : Answer) : Rows :=
  ⟨a.columns, types, a.rows⟩

-- Cells without a known type are taken as they come.
def decodeCells : List (Option ColumnType) → Cells → Result (List Value)
  | _, [] => .ok []
  | some t :: types, v :: r => do return (← t.decode v) :: (← decodeCells types r)
  | none :: types, v :: r => do return v :: (← decodeCells types r)
  | [], v :: r => do return v :: (← decodeCells [] r)

def decode (rows : Rows) (cells : Cells) : Result Row := do
  return ⟨rows.columns, ← decodeCells rows.types cells⟩

-- Reads the next row. One that cannot be decoded is passed over all the same.
def next? (rows : Rows) : Option (Result Row × Rows) :=
  match rows.remaining with
  | [] => none
  | cells :: rest => some (rows.decode cells, { rows with remaining := rest })

-- Reads the next `n` rows, or those that are left.
def read (rows : Rows) (n : Nat) : List (Result Row) × Rows :=
  ((rows.remaining.take n).map rows.decode, { rows with remaining := rows.remaining.drop n })

end Rows

end PolySql
