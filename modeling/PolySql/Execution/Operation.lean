import PolySql.Execution.InsertPlan
import PolySql.Execution.Rows
import PolySql.Statement.Batch
import PolySql.Transaction.Handle

namespace PolySql

-- The catalog queries for one table, under the name that the server stores.
def Dialect.tableQuery (d : Dialect) (sql name : String) : Command :=
  CatalogQueries.forTable sql (d.storedName name)

namespace Handle

open Tx

variable {ρ : Type}

def runQuery (h : Handle) (c : Command) : Tx ρ Answer :=
  h.runTask "run a query" c.sql (.query c.sql c.params)

def runExecute (h : Handle) (c : Command) : Tx ρ Nat := do
  return (← h.runTask "execute a statement" c.sql (.execute c.sql c.params)).affected

def compile (s : Statement) : Tx ρ Command := do
  ofResult (s.compile (← context))

-- The number of affected or returned rows.
def execute (h : Handle) (s : Statement) : Tx ρ Nat := do
  let command ← compile s
  if s.returnsRows then return (← h.runQuery command).rows.length
  else h.runExecute command

def query (h : Handle) (s : Statement) : Tx ρ Rows := do
  let command ← compile s
  let types := s.resultTypes (← context).catalog
  return .ofAnswer types (← h.runQuery command)

def queryOne (h : Handle) (s : Statement) : Tx ρ (Option Row) := do
  match (← h.query s).next? with
  | none => return none
  | some (row, _) => return some (← ofResult row)

-- Inserts a row and asks for its key. Once the transaction is entered nothing comes in between.
def insertThenAsk (h : Handle) (c : Command) (query : String) : Tx ρ Answer := do
  h.enter
  let _ ← Tx.runTask h.depth "execute a statement" c.sql (.execute c.sql c.params)
  Tx.runTask h.depth "run a query" query (.query query [])

-- The key of the row that the plan inserts.
def insertedKey (h : Handle) (p : InsertPlan) (c : Command) : Tx ρ Value := do
  match p.source with
  | .given v =>
    let _ ← h.runExecute c
    return v
  | .returned => ofResult (p.generatedKey (← h.runQuery c))
  | .asked query => ofResult (p.generatedKey (← h.insertThenAsk c query))

-- Inserts one row and reports its key.
def insert (h : Handle) (type : HostType) (table : TableId) (values : List (ColumnId × Column)) :
    Tx ρ EntityId := do
  let plan ← planInsert table values
  let command ← compile (.insert plan.insert)
  let key ← h.insertedKey plan command
  ofResult (InsertPlan.resolve (← context).catalog type table key)

def executeAll (h : Handle) : List Command → Tx ρ Nat
  | [] => return 0
  | c :: r => do return (← h.runExecute c) + (← h.executeAll r)

def insertBatch (h : Handle) (b : BatchInsert) : Tx ρ Nat := do
  h.executeAll (← ofResult (b.compile (← context)))

def updateBatch (h : Handle) (b : BatchUpdate) : Tx ρ Nat := do
  let compiled ← ofResult (b.compile (← context))
  let answer ← h.runTask "execute a batch" compiled.sql (.batch compiled.sql compiled.paramSets)
  return answer.affected

def tableNames (h : Handle) : Tx ρ (List String) := do
  let sql := (← context).dialect.catalog.tableNames
  ofResult (Cells.tableNames (← h.runQuery ⟨sql, []⟩).rows)

def tableExists (h : Handle) (name : String) : Tx ρ Bool := do
  return (← h.tableNames).any (Text.sameWord · name)

-- What the server tells of one of its tables.
def tableSpec (h : Handle) (name : String) : Tx ρ TableSpec := do
  let d := (← context).dialect
  let columns ← h.runQuery (d.tableQuery d.catalog.columns name)
  let primaryKey ← h.runQuery (d.tableQuery d.catalog.primaryKey name)
  let indices ← h.runQuery (d.tableQuery d.catalog.indices name)
  let foreignKeys ← h.runQuery (d.tableQuery d.catalog.foreignKeys name)
  ofResult (Cells.table name ⟨columns.rows, primaryKey.rows, indices.rows, foreignKeys.rows⟩)

def tableSpecs (h : Handle) : List String → Tx ρ (List TableSpec)
  | [] => return []
  | name :: r => do return (← h.tableSpec name) :: (← h.tableSpecs r)

def introspect (h : Handle) : Tx ρ DatabaseSpec := do
  return ⟨← h.tableSpecs (← h.tableNames)⟩

def supports (c : Capability) : Tx ρ Bool := do
  return (← context).supports c

end Handle

end PolySql
