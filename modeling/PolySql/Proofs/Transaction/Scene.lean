import PolySql.Proofs.Transaction.Controls
import PolySql.Scenario.Step

namespace PolySql

-- A use of the innermost open handle on a transaction: a step with no steps inside it, the opening of a
-- transaction inside, or its end. In between the application may write down what it likes.
inductive Move
  | nested
  | step (s : Step)
  | drop
  | note (notes : Notes)

def Step.isStatement : Step → Bool
  | execute _ | query .. | queryOne .. | insert .. | insertBatch _ | updateBatch _ | introspect
  | tableNames | tableExists _ => true
  | _ => false

def Move.isStatement : Move → Bool
  | step s => s.isStatement
  | _ => false

-- What a move leaves: an event, or that a commit, a rollback of the whole transaction, a registration of
-- a hook or a setting was accepted.
inductive Mark
  | event (e : Event)
  | committed
  | rolledBack
  | onCommit (hook : String)
  | onRollback (hook : String)
  | isolation (level : Isolation)
  | readOnly (b : Bool)

-- The mark of something that may be refused.
def Mark.upon (m : Mark) (accepted : Bool) : List Mark :=
  if accepted then [m] else []

@[simp]
theorem Mark.upon_true (m : Mark) : m.upon true = [m] :=
  rfl

@[simp]
theorem Mark.upon_false (m : Mark) : m.upon false = [] :=
  rfl

-- Does the rollback of a frame at the given depth end the outermost transaction?
def Nesting.everything (nesting : Nesting) (depth : Nat) : Bool :=
  depth = 0 || nesting = .flat

-- The marks of a step itself, besides those of the events.
def Step.marks (nesting : Nesting) (depth : Nat) (accepted : Bool) : Step → List Mark
  | commit => Mark.committed.upon accepted
  | rollback => Mark.rolledBack.upon (nesting.everything depth && accepted)
  | onCommit hook => (Mark.onCommit hook).upon accepted
  | onRollback hook => (Mark.onRollback hook).upon accepted
  | setIsolation level => (Mark.isolation level).upon accepted
  | setReadOnly b => (Mark.readOnly b).upon accepted
  | _ => []

-- Where a mark was left: the move, and the numbers of the frame it was made in and of those around it,
-- innermost first. Frames are numbered in the order in which they are opened, from 0 on.
structure Site where
  path : List Nat
  move : Move

abbrev Log := List (Site × Mark)

def Mark.event? : Mark → Option Event
  | event e => some e
  | _ => none

def Log.events (log : Log) : List Event :=
  log.filterMap (·.2.event?)

def Move.log (m : Move) (path : List Nat) (marks : List Mark) : Log :=
  marks.map (⟨path, m⟩, ·)

@[simp]
theorem Log.events_append (log log' : Log) :
    Log.events (log ++ log') = log.events ++ log'.events :=
  List.filterMap_append

theorem Move.log_append (m : Move) (path : List Nat) (marks marks' : List Mark) :
    m.log path (marks ++ marks') = m.log path marks ++ m.log path marks' :=
  List.map_append

theorem Move.append_log_cons (log : Log) (m : Move) (path : List Nat) (x : Mark) (rest : List Mark) :
    log ++ m.log path (x :: rest) = (log ++ [(⟨path, m⟩, x)]) ++ m.log path rest := by
  rw [List.append_assoc]
  rfl

@[simp]
theorem Move.events_log (m : Move) : (m.log path marks).events = marks.filterMap Mark.event? := by
  rw [log, Log.events, List.filterMap_map]
  rfl

@[simp]
theorem Mark.filterMap_event (es : List Event) : (es.map event).filterMap event? = es := by
  rw [List.filterMap_map]
  exact List.filterMap_some

theorem Mark.filterMap_event_eq_nil {α : Type} (f : Mark → Option α) (h : ∀ e, f (event e) = none)
    (es : List Event) : (es.map event).filterMap f = [] :=
  List.filterMap_eq_nil_iff.mpr (List.forall_mem_map.mpr fun e _ => h e)

theorem Mark.filterMap_concat (es : List Event) (h : m.event? = none) :
    (es.map event ++ [m]).filterMap event? = es := by
  rw [List.filterMap_append, filterMap_event, List.filterMap_cons_none h, List.filterMap_nil,
    List.append_nil]

-- What the outcome of a transaction depends on. `live` are the frames that are active, under their
-- numbers, innermost first; there are none once the transaction has ended, and the status tells how.
structure Scene where
  status : TransactionStatus
  isolation : Option Isolation
  readOnly : Bool
  begun : Bool
  opened : Nat
  live : List (Nat × Frame)

def Nesting.savepoint (nesting : Nesting) (number : Nat) : Option Savepoint :=
  match nesting with
  | .savepoints => some ⟨number, false⟩
  | .flat => none

def Frame.number? (f : Frame) : Option Nat :=
  f.savepoint.map (·.number)

namespace Scene

def start (settings : TransactionSettings) : Scene :=
  ⟨.active, settings.isolation, settings.readOnly, false, 1, [(0, .opened none)]⟩

def path (s : Scene) : List Nat :=
  s.live.map Prod.fst

def due (s : Scene) (effective : Isolation → Isolation) : List Control :=
  (if s.begun then [] else [.begin (s.isolation.map effective) s.readOnly]) ++
    (s.live.reverse.filterMap (·.2.pendingSavepoint?)).map (.savepoint ·.name)

-- A control of the transaction as a whole, which is not needed before it has begun.
def whole (s : Scene) (c : Control) : List Control :=
  if s.begun then [c] else []

theorem length_whole (s : Scene) (c : Control) : (s.whole c).length ≤ 1 := by
  unfold whole
  split <;> simp

def rollbackHooks (s : Scene) : List String :=
  s.live.flatMap (·.2.onRollback)

def prepared (s : Scene) : Scene :=
  { s with begun := true, live := s.live.map fun (k, f) => (k, f.established) }

def ended (s : Scene) (status : TransactionStatus) : Scene :=
  { s with status := status, live := [] }

def push (s : Scene) (nesting : Nesting) : Scene :=
  { s with
    opened := s.opened + 1
    live := (s.opened, .opened (nesting.savepoint s.opened)) :: s.live }

end Scene

section

variable (settings : TransactionSettings) (n : Nat) (m : Move)

def TransactionSettings.told (notice : Notice) : List Event :=
  settings.config.interceptors.map (.notice · notice)

-- Controls whose failure ends the transaction, with what is told before them and the scene they leave.
inductive Crucial (s : Scene) : List Event → List Control → Scene → Prop
  | preparation :
    m.isStatement = true →
    Crucial s [] (s.due settings.dialect.effectiveIsolation) s.prepared
  | commit :
    s.live = [(k, f)] →
    Crucial s (settings.told .beforeCommit) (s.whole .commit) s
  | rollback :
    s.live.length = 1 ∨ settings.nesting = .flat →
    Crucial s (settings.told .beforeRollback) (s.whole .rollback) s
  | rollbackTo :
    s.live = (k, f) :: p :: rest →
    settings.nesting = .savepoints →
    Crucial s [] (f.createdSavepoint?.toList.map (.rollbackTo ·.name)) s

-- All that can happen to a transaction in one go, with the marks that it leaves.
inductive Shift (s : Scene) : List Mark → Scene → Prop
  | opened : s.live ≠ [] → Shift s [] (s.push settings.nesting)
  | isolation (level : Isolation) :
    s.live = [(k, f)] →
    s.begun = false →
    Shift s [.isolation level] { s with isolation := some level }
  | readOnly (b : Bool) :
    s.live = [(k, f)] →
    s.begun = false →
    Shift s [.readOnly b] { s with readOnly := b }
  | onCommit (hook : String) :
    s.live = (k, f) :: rest →
    Shift s [.onCommit hook] { s with live := (k, f.register [hook] []) :: rest }
  | onRollback (hook : String) :
    s.live = (k, f) :: rest →
    Shift s [.onRollback hook] { s with live := (k, f.register [] [hook]) :: rest }
  | ran (sql : String) (sent : List Request) (succeeded : Bool) :
    s.live ≠ [] →
    m.isStatement = true →
    Tried n (s.due settings.dialect.effectiveIsolation) es (.ok ()) →
    Task.isControl task = false →
    Shift s
      ((es ++ settings.told (.beforeStatement sql) ++ [Event.task n task sent succeeded] ++
        settings.told (.afterStatement sql)).map .event)
      s.prepared
  | committed :
    s.live = [(k, f)] →
    Tried n (s.whole .commit) es (.ok ()) →
    Shift s
      ((settings.told .beforeCommit ++ es ++ settings.told .afterCommit ++
        hookEvents f.onCommit).map .event ++ [.committed])
      (s.ended .committed)
  | merged :
    s.live = (k, f) :: (j, g) :: rest →
    Tried n (f.createdSavepoint?.toList.map (.release ·.name)) es (.ok ()) →
    Shift s (es.map .event ++ [.committed]) { s with live := (j, g.inherit f) :: rest }
  | unreleased :
    s.live = (k, f) :: p :: rest →
    Tried n (f.createdSavepoint?.toList.map (.release ·.name)) es (.error e) →
    Shift s (es.map .event) s
  | rolledBack :
    s.live ≠ [] →
    s.live.length = 1 ∨ settings.nesting = .flat →
    Tried n (s.whole .rollback) es (.ok ()) →
    Shift s
      ((settings.told .beforeRollback ++ es ++ settings.told .afterRollback ++
        hookEvents s.rollbackHooks).map .event ++ [.rolledBack])
      (s.ended .rolledBack)
  | undone :
    s.live = (k, f) :: p :: rest →
    settings.nesting = .savepoints →
    Tried n (f.createdSavepoint?.toList.map (.rollbackTo ·.name)) es (.ok ()) →
    Shift s ((es ++ hookEvents f.onRollback).map .event) { s with live := p :: rest }
  | aborted :
    s.live ≠ [] →
    Crucial settings m s told controls s' →
    Tried n controls es (.error e) →
    Tried n (s'.whole .rollback) es' r →
    Shift s ((told ++ es ++ es' ++ hookEvents s'.rollbackHooks).map .event) (s'.ended .rolledBack)

end

-- The scenes of a transaction, with the marks that were left on the way.
inductive Reached (settings : TransactionSettings) (n : Nat) : Scene → Log → Prop
  | start : Reached settings n (.start settings) []
  | shift (m : Move) :
    Reached settings n s log →
    Shift settings n m s marks s' →
    Reached settings n s' (log ++ m.log s.path marks)

end PolySql
