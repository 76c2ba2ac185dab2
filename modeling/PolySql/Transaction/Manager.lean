import PolySql.Transaction.Handle

namespace PolySql

-- A step outside of any transaction.
abbrev Outer (ρ α : Type) := ExceptT DatabaseError (StateM (World ρ)) α

namespace Outer

variable {ρ α : Type}

def outcome (x : Outer ρ α) : Outer ρ (Result α) :=
  ExceptT.lift x.run

def ofResult (r : Result α) : Outer ρ α :=
  ExceptT.mk (pure r)

def connect : Outer ρ Nat := do
  let (result, world) := (← get).connect
  set world
  ofResult result

end Outer

-- Runs a step in a transaction; with its outcome comes what has become of the transaction.
def Transaction.run {ρ α : Type} (t : Transaction) (x : Tx ρ α) :
    StateM (World ρ) (Result α × Transaction) := do
  let (result, s) := x.run ⟨t, ← get⟩
  set s.world
  return (result, s.transaction)

-- Opens transactions that all have the same default settings.
structure Manager where
  settings : TransactionSettings

namespace Manager

open Outer

variable {ρ α : Type}

-- Asks the server for its version and keeps it.
def fetchVersion (d : Dialect) (connection : Nat) : Outer ρ Unit := do
  let (result, world) := (← get).perform d connection (.query d.catalog.serverVersion [])
  set world
  let version ← ofResult (result.bind fun a => Cells.serverVersion a.rows)
  modify fun w => { w with snapshot := w.snapshot.store version }

def dialect (c : Config) (product : String) : Result Dialect :=
  match c.explicitDialect with
  | some d => .ok d
  | none => c.registry.resolve product

-- Settles the dialect by a first connection.
def new (catalog : Catalog) (config : Config) : Outer ρ Manager := do
  let connection ← connect
  let d ← ofResult (dialect config (← get).server.product)
  ofResult (config.validate d)
  if d.isVersionGated then fetchVersion d connection
  return ⟨.standard catalog d config⟩

-- Forgets what is known of the server and asks again.
def refresh (m : Manager) : Outer ρ Unit := do
  modify fun w => { w with snapshot := w.snapshot.refresh }
  let d := m.settings.dialect
  if d.isVersionGated then fetchVersion d (← connect)

-- An outermost transaction on a connection of its own.
def begin (settings : TransactionSettings) : Outer ρ Transaction := do
  return .new settings (← connect)

-- Runs `body` in a new transaction.
def attempt (settings : TransactionSettings) (shared : Bool) (body : Handle → Tx ρ α) :
    Outer ρ α := do
  let t ← begin settings
  let h : Handle := ⟨0, shared⟩
  let step : Tx ρ α := do
    let result ← (body h).outcome
    let finished ← (h.finish result).outcome
    Tx.settle
    Tx.ofResult finished
  ofResult (← t.run step).1

-- Makes attempts until one succeeds or fails for good, or `more` have been made after the first.
def retrying (settings : TransactionSettings) (once : Outer ρ α) (more : Nat) : Outer ρ α := do
  match ← once.outcome with
  | .ok a => return a
  | .error e =>
    let most := settings.config.retry.maxAttempts
    if !settings.isRetryable e || most ≤ 1 then throw e
    match more with
    | 0 => throw (.retryExhausted most e)
    | more + 1 => retrying settings once more

def transaction (settings : TransactionSettings) (shared : Bool) (body : Handle → Tx ρ α) :
    Outer ρ α :=
  retrying settings (attempt settings shared body) (settings.config.retry.maxAttempts - 1)

end Manager

end PolySql
