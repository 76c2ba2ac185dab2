import PolySql.Proofs.Computation
import PolySql.Transaction.Handle

namespace PolySql

-- The transaction's state and the world after more has happened.
def Session.after {ρ : Type} (s : Session ρ) (es : List Event) : Session ρ :=
  { s with world := s.world.recordAll es }

def Session.withStack {ρ : Type} (s : Session ρ) (stack : Stack) : Session ρ :=
  { s with transaction := { s.transaction with stack := stack } }

def Session.disconnected {ρ : Type} (s : Session ρ) : Session ρ :=
  { s with transaction := { s.transaction with connection := none } }

def Transaction.told (t : Transaction) (n : Notice) : List Event :=
  t.settings.config.interceptors.map (.notice · n)

def hookEvents (hooks : List String) : List Event :=
  hooks.map .hook

@[simp]
theorem World.recordAll_nil {ρ : Type} (w : World ρ) : w.recordAll [] = w := by
  simp [recordAll]

@[simp]
theorem World.recordAll_recordAll {ρ : Type} (w : World ρ) :
    (w.recordAll es).recordAll es' = w.recordAll (es ++ es') := by
  simp [recordAll]

namespace Session

variable {ρ : Type} (s : Session ρ) (stack : Stack)

@[simp]
theorem after_nil : s.after [] = s := by
  simp [after]

@[simp]
theorem transaction_after : (s.after es).transaction = s.transaction :=
  rfl

@[simp]
theorem world_after : (s.after es).world = s.world.recordAll es :=
  rfl

@[simp]
theorem transaction_withStack :
    (s.withStack stack).transaction = { s.transaction with stack := stack } :=
  rfl

@[simp]
theorem world_withStack : (s.withStack stack).world = s.world :=
  rfl

@[simp]
theorem transaction_disconnected :
    s.disconnected.transaction = { s.transaction with connection := none } :=
  rfl

@[simp]
theorem world_disconnected : s.disconnected.world = s.world :=
  rfl

end Session

namespace Tx

variable {ρ α β : Type} {s : Session ρ}

@[simp]
theorem exec_outcome (x : Tx ρ α) : exec x.outcome s = (.ok (exec x s).1, (exec x s).2) :=
  rfl

@[simp]
theorem exec_ignore (x : Tx ρ α) : exec x.ignore s = (.ok (), (exec x s).2) :=
  rfl

@[simp]
theorem exec_ofResult (r : Result α) : exec (ofResult r) s = (r, s) :=
  rfl

@[simp]
theorem exec_transaction : exec (transaction : Tx ρ Transaction) s = (.ok s.transaction, s) :=
  rfl

@[simp]
theorem exec_settings :
    exec (settings : Tx ρ TransactionSettings) s = (.ok s.transaction.settings, s) :=
  rfl

@[simp]
theorem exec_stack : exec (stack : Tx ρ Stack) s = (.ok s.transaction.stack, s) :=
  rfl

@[simp]
theorem exec_setStack (stack : Stack) :
    exec (setStack stack) s = (.ok (), s.withStack stack) :=
  rfl

@[simp]
theorem exec_disconnect : exec disconnect s = (.ok (), s.disconnected) :=
  rfl

@[simp]
theorem exec_notify (n : Notice) :
    exec (notify n) s = (.ok (), s.after (s.transaction.told n)) :=
  rfl

@[simp]
theorem exec_runHooks (hooks : List String) :
    exec (runHooks hooks) s = (.ok (), s.after (hookEvents hooks)) :=
  rfl

theorem exec_change (f : Stack → Result Stack) :
    exec (change f) s = match f s.transaction.stack with
      | .ok stack => (.ok (), s.withStack stack)
      | .error e => (.error e, s) := by
  simp only [change, exec_bind, exec_stack, exec_ofResult]
  cases f s.transaction.stack <;> rfl

end Tx

end PolySql
