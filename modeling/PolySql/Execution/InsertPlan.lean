import PolySql.Schema.Rows
import PolySql.Settings.Config
import PolySql.Statement.Identity
import PolySql.Statement.Insert
import PolySql.Transaction.Session

namespace PolySql

-- How the key of an inserted row becomes known: beforehand, from the insert itself, or by a query
-- right after it.
inductive KeySource
  | given (v : Value)
  | returned
  | asked (query : String)

-- An insert of one row whose key is to be reported.
structure InsertPlan where
  insert : Insert
  source : KeySource
  keyType : ColumnType

namespace InsertPlan

-- The only column of the key.
def key (c : Catalog) (table : TableId) : Result ColumnId :=
  match c.keyIds table with
  | [id] => .ok id
  | _ =>
    .error (.compilation ("Table `" ++ c.tableName table ++
      "` needs a single-column primary key to report inserted ids"))

def keySource (cx : Context) (i : Insert) (key : ColumnId) : Result KeySource :=
  match (i.columns.zip (i.rows.headD [])).lookup key with
  | some (.param v) => .ok (.given v)
  | _ =>
    if cx.supports .returning then .ok .returned
    else match cx.dialect.lastInsertId with
      | some query => .ok (.asked query)
      | none => .error (cx.unsupported "reporting a generated key")

def withKey (cx : Context) (key : ColumnId) (i : Insert) : Result InsertPlan := do
  let source ← keySource cx i key
  let insert := match source with
    | .returned => { i with returning := [.physical key none] }
    | _ => i
  match cx.catalog.columnType? key with
  | some type => return ⟨insert, source, type⟩
  | none => throw (.compilation ("No column #" ++ toString key.column))

-- The stored key in the answer's first cell.
def generatedKey (p : InsertPlan) (a : Answer) : Result Value :=
  match a.rows.head?.bind (·.head?) with
  | some v => p.keyType.decode v
  | none => .error (.transaction "the insert reported no generated key")

-- The key under the table, if it is a value of the given type.
def resolve (c : Catalog) (type : HostType) (table : TableId) (v : Value) : Result EntityId := do
  let id ← (EntityId.new table).resolve v
  let _ ← id.value c type
  return id

end InsertPlan

namespace Tx

open InsertPlan

variable {ρ : Type}

-- Asks the configuration for a key.
def askId (table : TableId) : Tx ρ (Option Value) := do
  let s ← get
  let settings := s.transaction.settings
  set { s with world := { s.world with askedIds := s.world.askedIds + 1 } }
  ofResult (settings.config.ids.generate s.world.askedIds settings.catalog table)

-- Makes something that takes values from the generators of columns.
def draft {α : Type} (f : Draft α) : Tx ρ α := do
  let s ← get
  let (result, draws) := f s.world.draws
  set { s with world := { s.world with draws := draws } }
  ofResult result

-- Completes the values of a row by its key, if the caller did not give it.
def planInsert (table : TableId) (values : List (ColumnId × Column)) : Tx ρ InsertPlan := do
  let cx ← context
  let key ← ofResult (InsertPlan.key cx.catalog table)
  let asked ← if values.any (·.1 == key) then pure none else askId table
  let completed := values ++ asked.toList.map fun v => (key, .param v)
  let insert ← draft (Insert.new cx.catalog table completed)
  ofResult (withKey cx key insert)

end Tx

end PolySql
