import PolySql.Transaction.Session

namespace PolySql

-- What gives access to a transaction, at its depth. Shared handles on one outermost transaction live
-- side by side, and what is left of one that was dropped is cleaned up later; of the others, a nested
-- one is in use until it is dropped, and only then the one around it again.
structure Handle where
  depth : Nat
  shared : Bool
  deriving DecidableEq

namespace Handle

open Tx

variable {ρ α : Type}

-- Rolls a frame back, if that is needed, and forgets it.
def discard (depth : Nat) : Tx ρ Unit := do
  if (← stack).status depth = .active then (rollback depth).ignore
  setStack ((← stack).pop depth)

def setAbandoned (depths : List Nat) : Tx ρ Unit :=
  modify fun s => { s with transaction := { s.transaction with abandoned := depths } }

def abandon (depth : Nat) : Tx ρ Unit := do
  setAbandoned ((← transaction).abandoned ++ [depth])

-- Discards abandoned frames as long as the innermost one is among them. The fuel bounds their number.
def discardAbandoned : Nat → Tx ρ Unit
  | 0 => return
  | fuel + 1 => do
    let t ← transaction
    if t.abandoned.contains t.stack.top then
      setAbandoned (t.abandoned.erase t.stack.top)
      discard t.stack.top
      discardAbandoned fuel

-- What comes before any use of the handle.
def enter (h : Handle) : Tx ρ Unit := do
  if h.shared then discardAbandoned (← transaction).abandoned.length

def status (h : Handle) : Tx ρ TransactionStatus := do
  h.enter
  return (← stack).status h.depth

-- The settings as they are now, for another transaction.
def settings (h : Handle) : Tx ρ TransactionSettings := do
  h.enter
  let t ← transaction
  return { t.settings with isolation := t.stack.isolation, readOnly := t.stack.readOnly }

def setIsolation (h : Handle) (level : Isolation) : Tx ρ Unit := do
  h.enter
  change (·.setIsolation h.depth level)

def setReadOnly (h : Handle) (readOnly : Bool) : Tx ρ Unit := do
  h.enter
  change (·.setReadOnly h.depth readOnly)

def onCommit (h : Handle) (hook : String) : Tx ρ Unit := do
  h.enter
  change (·.onCommit h.depth hook)

def onRollback (h : Handle) (hook : String) : Tx ρ Unit := do
  h.enter
  change (·.onRollback h.depth hook)

def runTask (h : Handle) (operation sql : String) (t : Task) : Tx ρ Answer := do
  h.enter
  Tx.runTask h.depth operation sql t

-- Opens a transaction inside the handle's.
def nested (h : Handle) : Tx ρ Handle := do
  h.enter
  change (·.push h.depth)
  return { h with depth := (← stack).top }

-- Ends the use of the handle. A transaction that is still active is rolled back: at once, with the next
-- use of another handle, or, if it is a shared outermost one, in the background.
def drop (h : Handle) : Tx ρ Unit := do
  if !h.shared then discard h.depth
  else if 0 < h.depth then abandon h.depth
  else if (← stack).status 0 = .active then
    modify fun s => { s with transaction := { s.transaction with orphaned := true } }

-- Uses up a shared handle with its last step: the frame is forgotten if it has ended.
def retire (h : Handle) : Tx ρ Unit := do
  let stack ← stack
  if stack.status h.depth = .active then h.drop
  else setStack (stack.pop h.depth)

-- Ends the transaction by the given step.
def endBy (h : Handle) (step : Nat → Tx ρ Unit) : Tx ρ Unit := do
  h.enter
  let result ← (step h.depth).outcome
  if h.shared then h.retire
  ofResult result

-- Uses a shared handle up; any other one is dropped later.
def commit (h : Handle) : Tx ρ Unit :=
  h.endBy Tx.commit

def rollback (h : Handle) : Tx ρ Unit :=
  h.endBy Tx.rollback

-- Commits what succeeded and rolls back what failed, unless the transaction has ended before. After
-- that the handle is gone.
def finish (h : Handle) (result : Result α) : Tx ρ α := do
  if (← h.status) ≠ .active then
    h.drop
    ofResult result
  else
    match result with
    | .ok a =>
      let committed ← h.commit.outcome
      if !h.shared then h.drop
      ofResult (committed.map fun _ => a)
    | .error e =>
      h.rollback.ignore
      if !h.shared then h.drop
      throw e

-- Runs `body` in a transaction inside the handle's.
def scope (h : Handle) (body : Handle → Tx ρ α) : Tx ρ α := do
  let inner ← h.nested
  let result ← (body inner).outcome
  inner.finish result

end Handle

-- The background work for an outermost transaction whose handle was dropped.
def Tx.settle {ρ : Type} : Tx ρ Unit := do
  let t ← transaction
  if t.orphaned && t.stack.status 0 = .active then abort

end PolySql
