import PolySql.Scenario.Run
import PolySql.Transaction.Manager

namespace PolySql

-- How a transaction starts: from settings that were kept, or else from the manager's, with some of
-- them replaced.
structure Start where
  kept : Option String
  options : TransactionOptions

-- What is done from outside of transactions. `hold`, `nest`, `use` and `release` are for shared
-- handles, which have names.
inductive Act
  | describe
  | refresh
  -- all of the steps, in a transaction that is dropped after them
  | begin (start : Start) (steps : List Step)
  -- the n-th attempt runs the n-th body, or else the last one
  | transaction (start : Start) (bodies : List (List Step))
  | hold (name : String) (start : Start)
  | nest (name inner : String)
  | use (name : String) (step : Step)
  | release (name : String) (ending : Ending)

-- The reports that were made inside an act.
inductive Inner
  | nothing
  | steps (reports : List Report)
  | attempts (reports : List (List Report))

def Inner.ofOption : Option (List Report) → Inner
  | some reports => steps reports
  | none => nothing

structure Account where
  result : Result Reply
  log : List Event
  inner : Inner

-- A handle under its name, with the position of its transaction.
structure Held where
  name : String
  owner : Nat
  handle : Handle

-- A manager at work. Transactions stay where they are once they have begun, and handles leave when
-- they are used up.
structure Bench where
  manager : Manager
  shared : Bool
  transactions : List Transaction
  held : List Held

namespace Bench

abbrev Run (α : Type) := StateT Bench (StateM (World Notes)) α

def outcome {α : Type} (x : Outer Notes α) : Run (Result α) :=
  x.run

-- Runs a step in one of the transactions.
def inside {α : Type} (owner : Nat) (x : Tx Notes α) : Run (Result α) := do
  let b ← get
  match b.transactions[owner]? with
  | none => return .error (.transactionClosed .closed "run a step")
  | some t =>
    let (result, t) ← t.run x
    set { b with transactions := b.transactions.set owner t }
    return result

def settled (t : Transaction) : Run Transaction := do
  let (_, t) ← t.run (Tx.settle : Tx Notes Unit)
  return t

-- Lets all background work happen.
def settle : Run Unit := do
  let b ← get
  set { b with transactions := ← b.transactions.mapM settled }

def takeLog : StateM (World Notes) (List Event) :=
  modifyGet World.takeLog

def settings (s : Start) : Run TransactionSettings := do
  let kept := (← getThe (World Notes)).application.kept
  let base := (s.kept.bind fun name => kept.lookup name).getD (← get).manager.settings
  return base.withOptions s.options

def described (m : Manager) : StateM (World Notes) Reply := do
  return .manager m.settings (← get).snapshot.version

def find? (b : Bench) (name : String) : Option Held :=
  b.held.find? (·.name == name)

-- Without the oldest handle of the name.
def without (b : Bench) (name : String) : Bench :=
  { b with held := b.held.eraseP (·.name == name) }

def keep (h : Held) : Run Unit :=
  modify fun b => { b with held := b.held ++ [h] }

def silent {α : Type} (r : Result α) : Result Reply × Inner :=
  (r.map fun _ => .nothing, .nothing)

-- Runs all of the steps, gives their last status and drops the transaction.
def runSteps (steps : List Step) : Tx Notes (TransactionStatus × List Report) := do
  let h : Handle := ⟨0, false⟩
  let reports ← Step.runAll h steps
  let status := (← Tx.stack).status h.depth
  h.drop
  return (status, reports)

def runBegin (start : Start) (steps : List Step) : Run (Result Reply × Inner) := do
  match ← outcome (Manager.begin (← settings start)) with
  | .error e => return (.error e, .nothing)
  | .ok t =>
    match (← t.run (runSteps steps)).1 with
    | .error e => return (.error e, .nothing)
    | .ok (status, reports) => return (.ok (.status status), .steps reports)

-- The body of the attempt after those that have written down their reports.
def nextBody (bodies : List (List Step)) (h : Handle) : Step.Run Reply := do
  let attempts := (← Step.notes).bodies.length
  Step.body (bodies.getD attempts (bodies.getLastD [])) h

def takeAttempts : StateM (World Notes) (List (List Report)) :=
  modifyGet fun w =>
    (w.application.bodies, { w with application := { w.application with bodies := [] } })

def runTransaction (start : Start) (bodies : List (List Step)) : Run (Result Reply × Inner) := do
  let shared := (← get).shared
  let result ← outcome (Manager.transaction (← settings start) shared (nextBody bodies))
  return (result, .attempts (← takeAttempts))

def runHold (name : String) (start : Start) : Run (Result Reply × Inner) := do
  match ← outcome (Manager.begin (← settings start)) with
  | .error e => return (.error e, .nothing)
  | .ok t =>
    let owner := (← get).transactions.length
    modify fun b => { b with transactions := b.transactions ++ [t] }
    keep ⟨name, owner, ⟨0, true⟩⟩
    return (.ok .nothing, .nothing)

def runNest (outer : Held) (name : String) : Run (Result Reply × Inner) := do
  match ← inside outer.owner outer.handle.nested with
  | .error e => return (.error e, .nothing)
  | .ok inner =>
    keep ⟨name, outer.owner, inner⟩
    return (.ok (.count inner.depth), .nothing)

def runUse (h : Held) (step : Step) : Run (Result Reply × Inner) := do
  match ← inside h.owner (step.perform h.handle) with
  | .error e => return (.error e, .nothing)
  | .ok (result, reports) => return (result, .ofOption reports)

def ended (h : Handle) : Ending → Tx Notes Unit
  | .commit => h.commit
  | .rollback => h.rollback
  | .drop => h.drop

-- Ends the use of a handle, which leaves even if that fails.
def runRelease (h : Held) (ending : Ending) : Run (Result Reply × Inner) := do
  modify (·.without h.name)
  return silent (← inside h.owner (ended h.handle ending))

def withHandle (name : String) (f : Held → Run (Result Reply × Inner)) :
    Run (Result Reply × Inner) := do
  match (← get).find? name with
  | some h => f h
  | none => return (.ok .noHandle, .nothing)

def perform : Act → Run (Result Reply × Inner)
  | .describe => do return (.ok (← described (← get).manager), .nothing)
  | .refresh => do return silent (← outcome (← get).manager.refresh)
  | .begin start steps => runBegin start steps
  | .transaction start bodies => runTransaction start bodies
  | .hold name start => runHold name start
  | .nest name inner => withHandle name (runNest · inner)
  | .use name step => withHandle name (runUse · step)
  | .release name ending => withHandle name (runRelease · ending)

-- Performs an act with the background work after it.
def run (a : Act) : Run Account := do
  let (result, inner) ← perform a
  settle
  return ⟨result, ← takeLog, inner⟩

def dropHeld (h : Held) : Run Unit := do
  let _ ← inside h.owner h.handle.drop
  settle

-- Drops the handles that are left, in the order in which they were made.
def finish : Run (List Event) := do
  (← get).held.forM dropHeld
  takeLog

end Bench

-- Acts of a manager on a server.
structure Scenario where
  server : Server
  catalog : Catalog
  config : Config
  shared : Bool
  acts : List Act

-- How the manager was made, and if it was, how the acts went and what happened at the end.
structure Outcome where
  manager : Account
  course : Option (List Account × List Event)

namespace Scenario

-- The manager's own settings are kept under its name.
def prepare (m : Manager) : StateM (World Notes) Unit :=
  modify fun w => { w with
    application := { w.application with kept := [("manager", m.settings)] } }

def course (acts : List Act) : Bench.Run (List Account × List Event) := do
  let accounts ← acts.mapM Bench.run
  return (accounts, ← Bench.finish)

def play (s : Scenario) : StateM (World Notes) Outcome := do
  match ← (Manager.new s.catalog s.config).run with
  | .error e => return ⟨⟨.error e, ← Bench.takeLog, .nothing⟩, none⟩
  | .ok m =>
    prepare m
    let reply ← Bench.described m
    let made : Account := ⟨.ok reply, ← Bench.takeLog, .nothing⟩
    let (course, _) ← (course s.acts).run ⟨m, s.shared, [], []⟩
    return ⟨made, some course⟩

def outcome (s : Scenario) : Outcome :=
  (s.play.run (.new s.server .blank)).1

end Scenario

end PolySql
