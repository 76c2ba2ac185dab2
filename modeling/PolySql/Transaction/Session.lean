import PolySql.Settings.Config
import PolySql.Sql.Context
import PolySql.Transaction.Stack
import PolySql.Transaction.World

namespace PolySql

-- What a transaction runs with.
structure TransactionSettings where
  catalog : Catalog
  dialect : Dialect
  config : Config
  isolation : Option Isolation
  readOnly : Bool

-- Settings that replace the default ones.
structure TransactionOptions where
  isolation : Option Isolation
  readOnly : Option Bool

namespace TransactionSettings

def standard (catalog : Catalog) (dialect : Dialect) (config : Config) : TransactionSettings :=
  ⟨catalog, dialect, config, config.isolation, config.readOnly⟩

def withOptions (s : TransactionSettings) (o : TransactionOptions) : TransactionSettings :=
  { s with
    isolation := o.isolation.or s.isolation
    readOnly := o.readOnly.getD s.readOnly }

def nesting (s : TransactionSettings) : Nesting :=
  if s.config.useNestedTransactions then .savepoints else .flat

def stack (s : TransactionSettings) : Stack :=
  .new s.nesting s.isolation s.readOnly

def isRetryable (s : TransactionSettings) (e : DatabaseError) : Bool :=
  s.dialect.isRetryableError s.config.retryableStates e

end TransactionSettings

-- An outermost transaction with all that are nested in it. The connection is there until the end.
-- `abandoned` are the depths of nested transactions that were given up and wait for their rollback;
-- `orphaned` holds once the outermost one itself was.
structure Transaction where
  settings : TransactionSettings
  stack : Stack
  connection : Option Nat
  abandoned : List Nat
  orphaned : Bool

def Transaction.new (settings : TransactionSettings) (connection : Nat) : Transaction :=
  ⟨settings, settings.stack, some connection, [], false⟩

-- A transaction in its world.
structure Session (ρ : Type) where
  transaction : Transaction
  world : World ρ

-- A step of a transaction, which may fail but happens all the same.
abbrev Tx (ρ α : Type) := ExceptT DatabaseError (StateM (Session ρ)) α

-- What is done to the transaction itself, at a depth, is the same through every kind of handle.
namespace Tx

variable {ρ α : Type}

-- The step's outcome as a value.
def outcome (x : Tx ρ α) : Tx ρ (Result α) :=
  ExceptT.lift x.run

-- The step's effect alone.
def ignore (x : Tx ρ α) : Tx ρ Unit := do
  let _ ← x.outcome

def ofResult (r : Result α) : Tx ρ α :=
  ExceptT.mk (pure r)

def transaction : Tx ρ Transaction := do
  return (← get).transaction

def settings : Tx ρ TransactionSettings := do
  return (← transaction).settings

def stack : Tx ρ Stack := do
  return (← transaction).stack

def setStack (stack : Stack) : Tx ρ Unit :=
  modify fun s => { s with transaction := { s.transaction with stack := stack } }

-- Replaces the stack unless that is refused.
def change (f : Stack → Result Stack) : Tx ρ Unit := do
  setStack (← ofResult (f (← stack)))

def disconnect : Tx ρ Unit :=
  modify fun s => { s with transaction := { s.transaction with connection := none } }

-- Tells every observer.
def notify (n : Notice) : Tx ρ Unit :=
  modify fun s => { s with
    world := s.world.recordAll (s.transaction.settings.config.interceptors.map (.notice · n)) }

def runHooks (hooks : List String) : Tx ρ Unit :=
  modify fun s => { s with world := s.world.recordAll (hooks.map .hook) }

-- Carries out a task on the connection, which is needed for the given operation.
def perform (operation : String) (t : Task) : Tx ρ Answer := do
  let s ← get
  match s.transaction.connection with
  | none => throw (.transactionClosed (s.transaction.stack.status 0) operation)
  | some connection =>
    let (result, world) := s.world.perform s.transaction.settings.dialect connection t
    set { s with world := world }
    ofResult result

def control (c : Control) : Tx ρ Unit := do
  match ← (perform "use the connection" (.control c)).outcome with
  | .ok _ => return
  | .error e => throw (.withContext ("Transaction control " ++ c.shown ++ " failed") e)

-- Carries out controls up to the first that fails.
def apply : List Control → Tx ρ Unit
  | [] => return
  | controls => do
    let t ← transaction
    if t.connection.isNone then
      throw (.transactionClosed (t.stack.status 0) "use the connection")
    controls.forM control

-- Gives up on the whole transaction.
def abort : Tx ρ Unit := do
  let stack ← stack
  let controls := stack.abortControls
  let (hooks, stack) := stack.aborted
  setStack stack
  (apply controls).ignore
  disconnect
  runHooks hooks

-- Runs a statement of the frame at `depth` after the controls that are due.
def runTask (depth : Nat) (operation sql : String) (t : Task) : Tx ρ Answer := do
  let effective := (← settings).dialect.effectiveIsolation
  let (controls, stack) ← ofResult ((← stack).prepare effective depth operation)
  setStack stack
  match ← (apply controls).outcome with
  | .error e =>
    abort
    throw e
  | .ok () =>
    notify (.beforeStatement sql)
    let result ← (perform operation t).outcome
    notify (.afterStatement sql)
    ofResult (result.withContext ("Database operation failed: " ++ sql))

def rollback (depth : Nat) : Tx ρ Unit := do
  let stack ← stack
  let controls ← ofResult (stack.rollbackControls depth)
  let everything := stack.rollsBackEverything depth
  if everything then notify .beforeRollback
  match ← (apply controls).outcome with
  | .error e =>
    abort
    throw e
  | .ok () =>
    let (hooks, stack) := stack.rolledBack depth
    setStack stack
    if everything then
      disconnect
      notify .afterRollback
    runHooks hooks

-- A nested commit that fails rolls its work back; an outermost one gives up on everything.
def commit (depth : Nat) : Tx ρ Unit := do
  let stack ← stack
  let controls ← ofResult (stack.commitControls depth)
  if depth = 0 then notify .beforeCommit
  match ← (apply controls).outcome with
  | .error e =>
    if depth = 0 then abort else (rollback depth).ignore
    throw e
  | .ok () =>
    let (hooks, stack) := stack.committed depth
    setStack stack
    if depth = 0 then
      disconnect
      notify .afterCommit
    runHooks hooks

-- The compiler's view of the transaction's server.
def context : Tx ρ Context := do
  let s ← get
  let settings := s.transaction.settings
  return .new settings.catalog settings.dialect s.world.snapshot.version

end Tx

end PolySql
