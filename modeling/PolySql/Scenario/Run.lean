import PolySql.Scenario.Step

namespace PolySql

-- What has happened since the last report.
def World.takeLog (w : World Notes) : List Event × World Notes :=
  let notes := { w.application with reported := w.trace.length }
  (w.trace.drop w.application.reported, { w with application := notes })

namespace Step

open Tx

abbrev Run (α : Type) := Tx Notes α

def notes : Run Notes := do
  return (← get).world.application

def setNotes (n : Notes) : Run Unit :=
  modify fun s => { s with world := { s.world with application := n } }

def report (h : Handle) (result : Result Reply) (inner : Option (List Report)) : Run Report := do
  let s ← get
  let (log, world) := s.world.takeLog
  set { s with world := world }
  let status := if h.shared then none else some (s.transaction.stack.status h.depth)
  return ⟨result, log, status, inner⟩

def readRows (most : Option Nat) (wanted : List Wanted) (rows : Rows) : Reply :=
  let (read, rest) := rows.read (most.getD rows.remaining.length)
  .rows rows.columns rows.remaining.length rest.remaining.length
    (read.map fun r => r.map (·.reading wanted))

def insertReply (h : Handle) (type : HostType) (table : TableId)
    (values : Draft (List (ColumnId × Column))) : Run Reply := do
  let id ← h.insert type table (← draft values)
  return .key (id.value?.getD .null) (← ofResult (id.value (← settings).catalog type))

def infoReply (h : Handle) : Run Reply := do
  let status ← h.status
  return .info h.depth status (← h.settings)

def keepReply (h : Handle) (name : Option String) : Run Reply := do
  let settings ← h.settings
  let n ← notes
  setNotes { n with kept := name.toList.map (·, settings) ++ n.kept }
  return .settings settings (← get).world.snapshot.version

def silent (x : Run Unit) : Run Reply := do
  x
  return .nothing

-- The steps that have no steps inside them.
def plain (h : Handle) : Step → Run Reply
  | execute statement => do return .count (← h.execute (← draft statement))
  | query statement most wanted => do
    return readRows most wanted (← h.query (← draft statement))
  | queryOne statement wanted => do
    return .row ((← h.queryOne (← draft statement)).map (·.reading wanted))
  | insert type table values => insertReply h type table values
  | insertBatch batch => do return .count (← h.insertBatch (← draft batch))
  | updateBatch batch => do return .count (← h.updateBatch batch)
  | introspect => do return .spec (← h.introspect)
  | tableNames => do return .names (← h.tableNames)
  | tableExists name => do return .truth (← h.tableExists name)
  | supports c => do return .truth (← Handle.supports c)
  | setIsolation level => silent (h.setIsolation level)
  | setReadOnly readOnly => silent (h.setReadOnly readOnly)
  | onCommit hook => silent (h.onCommit hook)
  | onRollback hook => silent (h.onRollback hook)
  | info => infoReply h
  | keep name => keepReply h name
  | fail e => throw e
  | commit => silent h.commit
  | rollback => silent h.rollback
  | nested .. | scope _ | caught _ => return .nothing

-- Ends the use of a nested handle. One that is not shared is always dropped, and reports its last status.
def finishNested (h : Handle) (ending : Ending) : Run Reply := do
  if !h.shared then
    let status := (← stack).status h.depth
    h.drop
    return .status status
  match ending with
  | .commit => silent h.commit
  | .rollback => silent h.rollback
  | .drop => silent h.drop

-- Writes down the reports of a body, and gives its outcome.
def close (outcome : List Report × Result Unit) : Run Reply := do
  let n ← notes
  setNotes { n with bodies := n.bodies ++ [outcome.1] }
  ofResult (outcome.2.map fun _ => .nothing)

-- Runs what writes down the reports of at most one body, and takes them.
def withBody (x : Run Reply) : Run (Result Reply × Option (List Report)) := do
  let before := (← notes).bodies
  setNotes { ← notes with bodies := [] }
  let result ← x.outcome
  let n ← notes
  setNotes { n with bodies := before }
  return (result, n.bodies.head?)

mutual

def perform (h : Handle) : Step → Run (Result Reply × Option (List Report))
  | nested steps ending => do
    match ← h.nested.outcome with
    | .error e => return (.error e, none)
    | .ok inner =>
      let reports ← runAll inner steps
      return (← (finishNested inner ending).outcome, some reports)
  | scope steps => withBody (h.scope fun inner => do close (← runUntil inner steps))
  | caught step => perform h step
  | step => do return (← (plain h step).outcome, none)

def runAll (h : Handle) : List Step → Run (List Report)
  | [] => return []
  | step :: rest => do
    let (result, inner) ← perform h step
    let first ← report h result inner
    return first :: (← runAll h rest)

-- Runs steps up to the first failure that is not caught.
def runUntil (h : Handle) : List Step → Run (List Report × Result Unit)
  | [] => return ([], .ok ())
  | step :: rest => do
    let (result, inner) ← perform h step
    let first ← report h result inner
    match result, step.isCaught with
    | .error e, false => return ([first], .error e)
    | _, _ =>
      let (more, outcome) ← runUntil h rest
      return (first :: more, outcome)

end

-- The steps as the body of a transaction.
def body (steps : List Step) (h : Handle) : Run Reply := do
  close (← runUntil h steps)

end Step

end PolySql
