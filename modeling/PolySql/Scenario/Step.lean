import PolySql.Execution.Operation

namespace PolySql

-- How the use of a nested transaction ends.
inductive Ending
  | commit
  | rollback
  | drop
  deriving DecidableEq

-- A value that is looked for in each row that is read.
structure Wanted where
  type : HostType
  place : Place

-- What is done with a handle.
inductive Step
  | execute (statement : Draft Statement)
  -- reads at most so many rows, if there is a number
  | query (statement : Draft Statement) (most : Option Nat) (wanted : List Wanted)
  | queryOne (statement : Draft Statement) (wanted : List Wanted)
  | insert (type : HostType) (table : TableId) (values : Draft (List (ColumnId × Column)))
  | insertBatch (batch : Draft BatchInsert)
  | updateBatch (batch : BatchUpdate)
  | introspect
  | tableNames
  | tableExists (name : String)
  | supports (c : Capability)
  | setIsolation (level : Isolation)
  | setReadOnly (readOnly : Bool)
  | onCommit (hook : String)
  | onRollback (hook : String)
  | info
  -- keeps the transaction's settings under a name
  | keep (name : Option String)
  | fail (e : DatabaseError)
  | commit
  | rollback
  -- all of the steps, on a handle of their own
  | nested (steps : List Step) (ending : Ending)
  -- the steps up to a failure, which is the failure of the whole
  | scope (steps : List Step)
  -- a failure of the step does not end the steps around it
  | caught (step : Step)

def Step.isCaught : Step → Bool
  | caught _ => true
  | _ => false

-- A row with the values that were looked for.
structure Reading where
  row : Row
  found : List (Result Value)

def Row.reading (wanted : List Wanted) (r : Row) : Reading :=
  ⟨r, wanted.map fun w => r.find w.type w.place⟩

-- What a step finds out.
inductive Reply
  | nothing
  | count (n : Nat)
  | truth (b : Bool)
  | names (names : List String)
  | rows (columns : List String) (before after : Nat) (rows : List (Result Reading))
  | row (r : Option Reading)
  | key (raw value : Value)
  | spec (s : DatabaseSpec)
  | status (s : TransactionStatus)
  | info (depth : Nat) (status : TransactionStatus) (settings : TransactionSettings)
  | settings (settings : TransactionSettings) (version : Option Version)
  | manager (settings : TransactionSettings) (version : Option Version)
  | noHandle

-- How a step went, with what has happened since the report before it. Reports of the steps inside it
-- are made first. The status is given for handles that are not shared.
structure Report where
  result : Result Reply
  log : List Event
  status : Option TransactionStatus
  inner : Option (List Report)

-- What runs of steps write down: the length of the trace that was reported, the settings that were
-- kept, and the reports of each body that was run.
structure Notes where
  reported : Nat
  kept : List (String × TransactionSettings)
  bodies : List (List Report)

def Notes.blank : Notes := ⟨0, [], []⟩

end PolySql
