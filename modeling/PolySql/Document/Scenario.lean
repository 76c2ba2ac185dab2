import PolySql.Document.Settings
import PolySql.Document.Statement
import PolySql.Scenario.Bench
import PolySql.Scenario.Script

namespace PolySql

-- Data that cannot be read is a mistake in a statement.
def ReadError.asError : ReadError → DatabaseError
  | malformed what => .compilation what
  | refused e => e

namespace Document

def drafted {α : Type} (read : Drawing α) : Draft α :=
  fun draws =>
    let (result, draws) := read.run draws
    (result.mapError ReadError.asError, draws)

def place (d : Document) : Reader Place := do
  match ← (d.field "name").optional string with
  | some name => return .named name
  | none => return .position (← (d.field "i").natural)

def wanted (d : Document) : Reader Wanted := do
  return ⟨← (d.field "as").hostType, ← d.place⟩

def wantedList (d : Document) : Reader (List Wanted) :=
  (d.field "get").listOf wanted

def ending (d : Document) : Ending :=
  match d with
  | text "commit" => .commit
  | text "rollback" => .rollback
  | _ => .drop

-- A step without the mark that says whether it is caught; `inner` reads the steps inside it.
def bareStep (c : Catalog) (inner : Document → Reader Step) (d : Document) : Reader Step := do
  let steps := (d.field "steps").listOf inner
  let statement : Draft Statement := drafted ((d.field "stmt").statement c)
  match ← (d.field "do").string with
  | "execute" => return .execute statement
  | "query" => return .query statement (← (d.field "take").optional natural) (← d.wantedList)
  | "query_one" => return .queryOne statement (← d.wantedList)
  | "insert" =>
    let table ← (d.field "table").tableId c
    return .insert (← (d.field "as").hostType) table
      (drafted do return ← (d.field "values").assignments c table)
  | "batch_insert" => return .insertBatch (drafted (d.batchInsert c))
  | "batch_update" => return .updateBatch (← d.batchUpdate c)
  | "introspect" => return .introspect
  | "table_names" => return .tableNames
  | "table_exists" => return .tableExists (← (d.field "name").string)
  | "supports" => return .supports (← (d.field "capability").capability)
  | "set_isolation" => return .setIsolation (← (d.field "level").isolation)
  | "set_read_only" => return .setReadOnly (d.flag "value")
  | "on_commit" => return .onCommit (← (d.field "label").string)
  | "on_rollback" => return .onRollback (← (d.field "label").string)
  | "info" => return .info
  | "context" => return .keep (← (d.field "name").optional string)
  | "fail" => return .fail (← (d.field "error").error)
  | "commit" => return .commit
  | "rollback" => return .rollback
  | "nested" => return .nested (← steps) (d.field "end").ending
  | "nested_scope" => return .scope (← steps)
  | name => Reader.malformed ("step " ++ name)

-- The fuel bounds how deep steps lie in each other.
def stepWith (c : Catalog) : Nat → Document → Reader Step
  | 0, _ => Reader.malformed "step"
  | fuel + 1, d => do
    let step ← d.bareStep c (stepWith c fuel)
    return if d.flag "catch" then .caught step else step

def step (c : Catalog) (d : Document) : Reader Step :=
  stepWith c d.depth d

def steps (c : Catalog) (d : Document) : Reader (List Step) :=
  d.listOf (step c)

def transactionOptions (d : Document) : Reader TransactionOptions := do
  return ⟨← (d.field "isolation").optional isolation,
    ← (d.field "read_only").optional fun b => pure b.isTrue⟩

def start (d : Document) : Reader Start := do
  return ⟨← (d.field "context").optional string, ← (d.field "options").transactionOptions⟩

-- What is done with a handle of the given name.
def handleAct (c : Catalog) (name : String) (d : Document) : Reader Act := do
  match ← (d.field "do").string with
  | "commit" => return .release name .commit
  | "rollback" => return .release name .rollback
  | "drop" => return .release name .drop
  | "open" => return .nest name (← (d.field "as").string)
  | _ => return .use name (← d.step c)

-- Handles have names where they are shared.
def act (c : Catalog) (shared : Bool) (d : Document) : Reader Act := do
  match ← (d.field "do").string, ← (d.field "tx").optional string with
  | "transaction", _ => return .transaction (← d.start) (← (d.field "bodies").listOf (steps c))
  | _, some name => d.handleAct c name
  | "refresh_metadata", none => return .refresh
  | "manager", none => return .describe
  | "begin", none =>
    if shared then return .hold (← (d.field "as").string) (← d.start)
    else return .begin (← d.start) (← (d.field "steps").steps c)
  | name, none => Reader.malformed ("step " ++ name)

def rule (d : Document) : Reader Rule := do
  let failure ← (d.field "fail").optional error
  let answer : Answer := ⟨← d.setting "affected" 1 natural, ← (d.field "columns").strings,
    ← (d.field "rows").valueRows⟩
  return ⟨← (d.field "on").string, ← (d.field "times").optional natural,
    failure.elim (.ok answer) .error⟩

def server (d : Document) : Reader Server := do
  return .scripted (← (d.field "product").string) (← (d.field "rules").listOf rule)

def scenario (random : Nat → Uuid) (shared : Bool) (d : Document) : Reader Scenario := do
  let server ← (d.field "connection").server
  let catalog ← (d.field "tables").catalog random
  let config ← (d.field "config").config random
  return ⟨server, catalog, config, shared, ← (d.field "steps").listOf (act catalog shared)⟩

end Document

end PolySql
