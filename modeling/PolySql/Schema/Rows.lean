import PolySql.Schema.Spec
import PolySql.Value
import PolySql.Version

namespace PolySql

abbrev Cells := List Value

-- The answers to the catalog queries for one table.
structure TableRows where
  columns : List Cells
  primaryKey : List Cells
  indices : List Cells
  foreignKeys : List Cells

namespace Cells

def malformed {α : Type} (what : String) (row : Cells) : Result α :=
  .error (.compilation ("Malformed " ++ what ++ " row from catalog: " ++
    Value.shownList (row.map Value.shown)))

def orMalformed {α : Type} (what : String) (row : Cells) : Option α → Result α
  | some a => .ok a
  | none => malformed what row

def text? : Value → Option String
  | .text s => some s
  | .int i => some (String.ofList (Text.ofInt i.toInt))
  | _ => none

def text (row : Cells) (i : Nat) (what : String) : Result String :=
  orMalformed what row (row[i]?.bind text?)

def optionalText (row : Cells) (i : Nat) (what : String) : Result (Option String) :=
  match row[i]? with
  | some .null => .ok none
  | _ => (row.text i what).map some

-- A truth value in any of the encodings that vendors use.
def flag? : Value → Option Bool
  | .bool b => some b
  | .int i => some (i != 0)
  | .decimal d => (int64? d.truncated).map (· != 0)
  | .text s => ((Text.integer? (Text.trim s.toList)).bind int64?).map (· != 0)
  | _ => none

def flag (row : Cells) (i : Nat) (what : String) : Result Bool :=
  orMalformed what row (row[i]?.bind flag?)

def serverVersion (rows : List Cells) : Result Version :=
  match rows with
  | [] => .error (.compilation "The server reported no version")
  | row :: _ => do Version.parse (← row.text 0 "server version")

def tableNames (rows : List Cells) : Result (List String) :=
  rows.mapM fun row => row.text 0 "table name"

def column (row : Cells) : Result ColumnSpec := do
  return ⟨← row.text 0 "column", ← row.text 1 "column", ← row.flag 2 "column",
    ← row.optionalText 3 "column"⟩

def columns (rows : List Cells) : Result (List ColumnSpec) :=
  rows.mapM column

def primaryKey (rows : List Cells) : Result (List String) :=
  rows.mapM fun row => row.text 0 "primary key"

-- A row continues the index of the row before it if the names agree; otherwise it begins one. What
-- is found so far is in reverse.
def addIndex (found : List IndexSpec) (row : Cells) : Result (List IndexSpec) := do
  let name ← row.text 0 "index"
  let column ← row.text 1 "index"
  match found with
  | last :: rest =>
    if last.name = name then return { last with columns := last.columns ++ [column] } :: rest
    else return ⟨name, [column], ← row.flag 2 "index"⟩ :: found
  | [] => return [⟨name, [column], ← row.flag 2 "index"⟩]

def indices (rows : List Cells) : Result (List IndexSpec) := do
  return (← rows.foldlM addIndex []).reverse

def addForeignKey (found : List ForeignKeySpec) (row : Cells) : Result (List ForeignKeySpec) := do
  let name ← row.text 0 "foreign key"
  let column ← row.text 1 "foreign key"
  let foreignColumn ← row.text 3 "foreign key"
  match found with
  | last :: rest =>
    if last.name = name then
      return { last with
        columns := last.columns ++ [column]
        foreignColumns := last.foreignColumns ++ [foreignColumn] } :: rest
    else return ⟨name, [column], ← row.text 2 "foreign key", [foreignColumn]⟩ :: found
  | [] => return [⟨name, [column], ← row.text 2 "foreign key", [foreignColumn]⟩]

def foreignKeys (rows : List Cells) : Result (List ForeignKeySpec) := do
  return (← rows.foldlM addForeignKey []).reverse

def table (name : String) (rows : TableRows) : Result TableSpec := do
  return ⟨name, ← columns rows.columns, ← primaryKey rows.primaryKey, ← indices rows.indices,
    ← foreignKeys rows.foreignKeys⟩

end Cells

end PolySql
