import PolySql.Error
import PolySql.Text.Digits
import PolySql.Transaction.Control

namespace PolySql

-- What a nested transaction is made of: a savepoint of its own, or nothing, so that it shares the
-- fate of the outermost one.
inductive Nesting
  | savepoints
  | flat
  deriving DecidableEq

structure Savepoint where
  number : Nat
  created : Bool
  deriving DecidableEq

def Savepoint.name (s : Savepoint) : String :=
  "strata_sp_" ++ String.ofList (Text.ofNat s.number)

-- One transaction, the outermost or a nested one. Its hooks are labels, in the order of registration.
structure Frame where
  status : TransactionStatus
  savepoint : Option Savepoint
  onCommit : List String
  onRollback : List String
  deriving DecidableEq

namespace Frame

def opened (savepoint : Option Savepoint) : Frame :=
  ⟨.active, savepoint, [], []⟩

def committed (f : Frame) : Frame :=
  { f with status := .committed, onCommit := [], onRollback := [] }

-- A frame that ended before keeps its status.
def rolledBack (f : Frame) : Frame :=
  { f with
    status := if f.status = .active then .rolledBack else f.status
    onCommit := []
    onRollback := [] }

-- The frame takes over the hooks of the one inside it.
def inherit (f inner : Frame) : Frame :=
  { f with
    onCommit := f.onCommit ++ inner.onCommit
    onRollback := f.onRollback ++ inner.onRollback }

def createdSavepoint? (f : Frame) : Option Savepoint :=
  f.savepoint.filter (·.created)

def pendingSavepoint? (f : Frame) : Option Savepoint :=
  f.savepoint.filter (!·.created)

-- The frame once its savepoint is there.
def established (f : Frame) : Frame :=
  { f with savepoint := f.savepoint.map fun s => { s with created := true } }

end Frame

-- The outermost transaction and the open ones inside it, outermost first. Nothing is sent to the
-- server before the first statement, so the start and the savepoints may still be due.
structure Stack where
  nesting : Nesting
  isolation : Option Isolation
  readOnly : Bool
  begun : Bool
  savepointCount : Nat
  frames : List Frame
  deriving DecidableEq

namespace Stack

def new (nesting : Nesting) (isolation : Option Isolation) (readOnly : Bool) : Stack :=
  ⟨nesting, isolation, readOnly, false, 0, [.opened none]⟩

-- The depth of the innermost frame.
def top (s : Stack) : Nat :=
  s.frames.length - 1

def status (s : Stack) (depth : Nat) : TransactionStatus :=
  match s.frames[depth]? with
  | some f => f.status
  | none => .closed

-- Only the innermost frame may act, and only while it is active.
def check (s : Stack) (depth : Nat) (operation : String) : Result Unit :=
  if s.status depth ≠ .active then .error (.transactionClosed (s.status depth) operation)
  else if depth ≠ s.top then
    .error (.transaction ("cannot " ++ operation ++ ": a nested transaction is still open"))
  else .ok ()

-- Settings are those of the outermost transaction, and are settled by its first statement.
def checkSettings (s : Stack) (depth : Nat) (operation : String) : Result Unit := do
  s.check depth operation
  if 0 < depth then
    throw (.transaction ("cannot " ++ operation ++
      ": a nested transaction inherits the settings of the outermost one"))
  if s.begun then
    throw (.transaction ("cannot " ++ operation ++ " after the first statement of the transaction"))

def setIsolation (s : Stack) (depth : Nat) (level : Isolation) : Result Stack := do
  s.checkSettings depth "set the isolation level"
  return { s with isolation := some level }

def setReadOnly (s : Stack) (depth : Nat) (readOnly : Bool) : Result Stack := do
  s.checkSettings depth "set the access mode"
  return { s with readOnly := readOnly }

def onCommit (s : Stack) (depth : Nat) (hook : String) : Result Stack := do
  s.check depth "register a commit hook"
  let register (f : Frame) : Frame := { f with onCommit := f.onCommit ++ [hook] }
  return { s with frames := s.frames.modify depth register }

def onRollback (s : Stack) (depth : Nat) (hook : String) : Result Stack := do
  s.check depth "register a rollback hook"
  let register (f : Frame) : Frame := { f with onRollback := f.onRollback ++ [hook] }
  return { s with frames := s.frames.modify depth register }

-- Opens a transaction inside the one at `parent`.
def push (s : Stack) (parent : Nat) : Result Stack := do
  s.check parent "open a nested transaction"
  match s.nesting with
  | .savepoints =>
    let n := s.savepointCount + 1
    return { s with savepointCount := n, frames := s.frames ++ [.opened (some ⟨n, false⟩)] }
  | .flat => return { s with frames := s.frames ++ [.opened none] }

-- Forgets a nested frame.
def pop (s : Stack) (depth : Nat) : Stack :=
  if 0 < depth ∧ depth = s.top then { s with frames := s.frames.take depth } else s

-- The controls that are due.
def due (s : Stack) (effective : Isolation → Isolation) : List Control :=
  (if s.begun then [] else [.begin (s.isolation.map effective) s.readOnly]) ++
    (s.frames.filterMap Frame.pendingSavepoint?).map (.savepoint ·.name)

-- The stack when a statement of `depth` may run, which is after the controls that were due.
def prepare (s : Stack) (effective : Isolation → Isolation) (depth : Nat) (operation : String) :
    Result (List Control × Stack) := do
  s.check depth operation
  return (s.due effective, { s with begun := true, frames := s.frames.map Frame.established })

-- Does rolling back `depth` end the outermost transaction?
def rollsBackEverything (s : Stack) (depth : Nat) : Bool :=
  depth = 0 || s.nesting = .flat

def created? (s : Stack) (depth : Nat) : Option Savepoint :=
  s.frames[depth]?.bind Frame.createdSavepoint?

def commitControls (s : Stack) (depth : Nat) : Result (List Control) := do
  s.check depth "commit"
  if depth = 0 then return if s.begun then [.commit] else []
  return (s.created? depth).toList.map (.release ·.name)

-- The stack after a commit, with the hooks that run now. A nested frame leaves its hooks to the frame
-- around it, since only the outermost commit makes its work last.
def committed (s : Stack) (depth : Nat) : List String × Stack :=
  match s.frames[depth]? with
  | none => ([], s)
  | some f =>
    let frames := s.frames.set depth f.committed
    if depth = 0 then (f.onCommit, { s with frames := frames })
    else ([], { s with frames := frames.modify (depth - 1) (·.inherit f) })

def rollbackControls (s : Stack) (depth : Nat) : Result (List Control) := do
  s.check depth "roll back"
  if s.rollsBackEverything depth then return if s.begun then [.rollback] else []
  return (s.created? depth).toList.map (.rollbackTo ·.name)

-- Rolls back the frames from `lowest` on, with the hooks that run now: the innermost frame's first.
def rolledBackFrom (s : Stack) (lowest : Nat) : List String × Stack :=
  (((s.frames.drop lowest).reverse).flatMap (·.onRollback),
    { s with frames := s.frames.take lowest ++ (s.frames.drop lowest).map Frame.rolledBack })

def rolledBack (s : Stack) (depth : Nat) : List String × Stack :=
  s.rolledBackFrom (if s.rollsBackEverything depth then 0 else depth)

-- Gives up on the transaction, after a failure that leaves nothing to save.
def abortControls (s : Stack) : List Control :=
  if s.begun ∧ s.status 0 = .active then [.rollback] else []

def aborted (s : Stack) : List String × Stack :=
  s.rolledBackFrom 0

end Stack

end PolySql
