import PolySql.Proofs.Transaction.Representation

namespace PolySql

-- A use of a handle on a transaction. A statement is any task but the transaction's own controls.
inductive Handle.Use
  | setIsolation (level : Isolation)
  | setReadOnly (b : Bool)
  | onCommit (hook : String)
  | onRollback (hook : String)
  | nested
  | runTask (operation sql : String) (t : Task) (statement : t.isControl = false)
  | commit
  | rollback
  | drop

def Handle.Use.run {ρ : Type} (h : Handle) : Use → Tx ρ Unit
  | setIsolation level => h.setIsolation level
  | setReadOnly b => h.setReadOnly b
  | onCommit hook => h.onCommit hook
  | onRollback hook => h.onRollback hook
  | nested => h.nested.ignore
  | runTask operation sql t _ => (h.runTask operation sql t).ignore
  | commit => h.commit
  | rollback => h.rollback
  | drop => h.drop

-- The states of a transaction whose handles are not shared, between operations. Its handles are used at
-- any depth and in any order, and meanwhile the world around it may become any other.
inductive Session.Reachable {ρ : Type} (settings : TransactionSettings) (n : Nat) : Session ρ → Prop
  | start (world : World ρ) : Reachable settings n ⟨.new settings n, world⟩
  | use (u : Handle.Use) (depth : Nat) :
    Reachable settings n s →
    Reachable settings n (exec (u.run ⟨depth, false⟩) s).2
  | elsewhere (world : World ρ) :
    Reachable settings n s →
    Reachable settings n { s with world := world }

-- The stack is in order, and the connection is there exactly while the outermost frame is active.
structure Transaction.Invariant (n : Nat) (t : Transaction) : Prop where
  stack : t.stack.Invariant
  connection : t.connection = if t.stack.status 0 = .active then some n else none

namespace Transaction.Invariant

variable {t t' : Transaction} {n m depth : Nat}

theorem new (settings : TransactionSettings) (n : Nat) : (Transaction.new settings n).Invariant n :=
  ⟨.new .., rfl⟩

theorem of_ended (h : t.stack.Invariant) (hn : t.stack.status 0 ≠ .active) (hc : t.connection = none) :
    t.Invariant n :=
  ⟨h, by rw [if_neg hn, hc]⟩

theorem of_ongoing (h : t.stack.Ongoing) (hc : t.connection = some n) : t.Invariant n :=
  ⟨h.toInvariant, by rw [if_pos h.active, hc]⟩

variable (h : t.Invariant n)

include h

theorem connection_of_open (ho : t.stack.Open depth) : t.connection = some n := by
  rw [h.connection, if_pos (h.stack.status_zero_of_open ho)]

theorem pop (depth : Nat) : Invariant n { t with stack := t.stack.pop depth } where
  stack := h.stack.pop depth
  connection := by
    rw [Stack.status_pop_zero]
    exact h.connection

theorem aborting (ha : Aborting m t es t') : t'.Invariant n := by
  cases ha
  exact of_ended h.stack.rolledBackFrom_zero
    (Stack.status_rolledBackFrom_ne_active (Nat.le_refl 0)) rfl

theorem running (hr : Running n depth t es t') : t'.Invariant n := by
  cases hr
  case refused => exact h
  case ran ho _ _ => exact of_ongoing (.prepared h.stack ho) (h.connection_of_open ho)
  case unprepared ho _ ha =>
    have hp : Invariant n { t with stack := t.stack.prepared } :=
      of_ongoing (.prepared h.stack ho) (h.connection_of_open ho)
    exact hp.aborting ha

theorem rollingBack (hr : RollingBack n depth t es r t') : t'.Invariant n := by
  cases hr
  case refused => exact h
  case whole he _ =>
    rw [Stack.rolledBack, if_pos he]
    exact of_ended h.stack.rolledBackFrom_zero
      (Stack.status_rolledBackFrom_ne_active (Nat.le_refl 0)) rfl
  case inner ho he _ => exact of_ongoing (.rolledBack h.stack ho he) (h.connection_of_open ho)
  case failed ha => exact h.aborting ha

theorem committing (hr : Committing n depth t es r t') : t'.Invariant n := by
  cases hr
  case refused => exact h
  case outermost ho hd _ =>
    subst hd
    exact of_ended (h.stack.committed_zero ho) (Stack.status_committed_ne_active ho.active) rfl
  case inner ho hd _ => exact of_ongoing (.committed h.stack ho hd) (h.connection_of_open ho)
  case outermostFailed ha => exact h.aborting ha
  case innerFailed hr => exact h.rollingBack hr

end Transaction.Invariant

-- The computation leaves the transaction in order, whether it fails or not.
def Tx.Upholds {ρ α : Type} (n : Nat) (x : Tx ρ α) : Prop :=
  ∀ s : Session ρ, s.transaction.Invariant n → (exec x s).2.transaction.Invariant n

namespace Tx.Upholds

variable {ρ : Type} {n : Nat}

theorem change (depth : Nat) {f : Stack → Result Stack}
    (hf : ∀ s s', s.Invariant → f s = .ok s' → s.Open depth ∧ s'.Ongoing) :
    Upholds n (Tx.change f : Tx ρ Unit) := by
  intro s hs
  rw [exec_change]
  cases he : f s.transaction.stack
  case error => exact hs
  case ok stack =>
    have ⟨ho, hg⟩ := hf _ _ hs.stack he
    exact .of_ongoing hg (hs.connection_of_open ho)

theorem setIsolation (depth : Nat) (level : Isolation) :
    Upholds n (Tx.change (·.setIsolation depth level) : Tx ρ Unit) := by
  refine change depth fun s s' hi hs => ?_
  obtain ⟨hset, rfl⟩ := Stack.of_setIsolation hs
  exact ⟨hset.is_open, .settings hi hset.is_open ..⟩

theorem setReadOnly (depth : Nat) (b : Bool) :
    Upholds n (Tx.change (·.setReadOnly depth b) : Tx ρ Unit) := by
  refine change depth fun s s' hi hs => ?_
  obtain ⟨hset, rfl⟩ := Stack.of_setReadOnly hs
  exact ⟨hset.is_open, .settings hi hset.is_open ..⟩

theorem onCommit (depth : Nat) (hook : String) :
    Upholds n (Tx.change (·.onCommit depth hook) : Tx ρ Unit) :=
  change depth fun _ _ hi hs => ⟨Stack.open_of_onCommit hs, .onCommit hi (Stack.open_of_onCommit hs) hs⟩

theorem onRollback (depth : Nat) (hook : String) :
    Upholds n (Tx.change (·.onRollback depth hook) : Tx ρ Unit) :=
  change depth fun _ _ hi hs =>
    ⟨Stack.open_of_onRollback hs, .onRollback hi (Stack.open_of_onRollback hs) hs⟩

theorem push (depth : Nat) : Upholds n (Tx.change (·.push depth) : Tx ρ Unit) :=
  change depth fun _ _ hi hs => ⟨Stack.open_of_push hs, .push hi (Stack.open_of_push hs) hs⟩

theorem runTask (depth : Nat) (operation sql : String) (ht : t.isControl = false) :
    Upholds n (Tx.runTask depth operation sql t : Tx ρ Answer) := by
  intro s hs
  have ⟨es, r, s', he, _, hr⟩ :=
    exec_runTask (fun (ho : s.transaction.stack.Open depth) => hs.connection_of_open ho) operation sql ht
  rw [he]
  exact hs.running hr

theorem rollback (depth : Nat) : Upholds n (Tx.rollback depth : Tx ρ Unit) := by
  intro s hs
  have ⟨es, r, s', he, _, hr⟩ :=
    exec_rollback fun (ho : s.transaction.stack.Open depth) => hs.connection_of_open ho
  rw [he]
  exact hs.rollingBack hr

theorem commit (depth : Nat) : Upholds n (Tx.commit depth : Tx ρ Unit) := by
  intro s hs
  have ⟨es, r, s', he, _, hr⟩ :=
    exec_commit fun (ho : s.transaction.stack.Open depth) => hs.connection_of_open ho
  rw [he]
  exact hs.committing hr

theorem drop (depth : Nat) : Upholds n (Handle.drop ⟨depth, false⟩ : Tx ρ Unit) := by
  intro s hs
  rw [exec_drop]
  exact (rollback depth s hs).pop depth

theorem use (u : Handle.Use) (depth : Nat) : Upholds n (u.run ⟨depth, false⟩ : Tx ρ Unit) := by
  cases u
  case setIsolation level => exact setIsolation depth level
  case setReadOnly b => exact setReadOnly depth b
  case onCommit hook => exact onCommit depth hook
  case onRollback hook => exact onRollback depth hook
  case nested =>
    intro s hs
    have h := push depth s hs
    rw [exec_change] at h
    simp only [Handle.Use.run, exec_ignore, exec_nested]
    cases hp : s.transaction.stack.push depth <;> rwa [hp] at h
  case runTask ht => exact runTask depth _ _ ht
  case commit => exact commit depth
  case rollback => exact rollback depth
  case drop => exact drop depth

end Tx.Upholds

theorem Session.Reachable.invariant {ρ : Type} {s : Session ρ} (h : s.Reachable settings n) :
    s.transaction.Invariant n := by
  induction h
  case start => exact .new settings n
  case use u depth _ ih => exact Tx.Upholds.use u depth _ ih
  case elsewhere ih => exact ih

namespace Session.Reachable

variable {ρ α : Type} {s s' : Session ρ}

theorem of_transaction_eq (h : s.Reachable settings n) (he : s'.transaction = s.transaction) :
    s'.Reachable settings n := by
  have hw := h.elsewhere s'.world
  rwa [← he] at hw

theorem alike (h : s.Reachable settings n) (ha : s.Alike s') : s'.Reachable settings n :=
  h.of_transaction_eq ha.transaction

theorem silent {s : Session Notes} {x : Step.Run Unit} (h : (exec x s).2.Reachable settings n) :
    (exec (Step.silent x) s).2.Reachable settings n := by
  rwa [Tx.exec_silent]

theorem visits {s : Session Notes} {x : Handle → Step.Run α} (hx : Tx.Visits step x) (depth : Nat)
    (h : s.Reachable settings n) : (exec (x ⟨depth, false⟩) s).2.Reachable settings n := by
  induction hx generalizing s
  case hidden hf => exact h.alike (hf _ s)
  case enter => exact h
  case runTask ht => exact h.use (.runTask _ _ _ ht) depth
  case bind x f _ _ ihx ihf =>
    have hx := ihx h
    rcases he : exec (x ⟨depth, false⟩) s with ⟨e | a, s'⟩ <;> rw [he] at hx
    case error => rwa [exec_bind_of_error he]
    case ok =>
      rw [exec_bind_of_ok he]
      exact ihf a hx

theorem plain {s : Session Notes} (h : s.Reachable settings n) (step : Step) (depth : Nat) :
    (exec (step.plain ⟨depth, false⟩) s).2.Reachable settings n := by
  cases hf : step.change?
  case none =>
    cases he : step.isEnding
    case false => exact visits (Step.visits hf he) depth h
    case true =>
      cases step
      case commit => exact silent (h.use .commit depth)
      case rollback => exact silent (h.use .rollback depth)
      all_goals nomatch he
  case some =>
    cases step
    case setIsolation level => exact silent (h.use (.setIsolation level) depth)
    case setReadOnly b => exact silent (h.use (.setReadOnly b) depth)
    case onCommit hook => exact silent (h.use (.onCommit hook) depth)
    case onRollback hook => exact silent (h.use (.onRollback hook) depth)
    all_goals nomatch hf

end Session.Reachable

-- So these are all the states that the steps of an application lead to.
theorem Session.Used.reachable {world : World Notes} {s : Session Notes} (h : s.Used settings n world) :
    s.Reachable settings n := by
  induction h
  case start => exact .start world
  case step depth step _ ih => exact ih.plain step depth
  case nested depth _ ih => exact ih.use .nested depth
  case drop depth _ ih => exact ih.use .drop depth
  case note ih => exact ih.of_transaction_eq rfl

-- Between operations the transaction is in order, and what the next one tries is tried on its
-- connection: all that is left of it are the events of that.
theorem Session.invariant_of_reachable {ρ : Type} {s : Session ρ} (h : s.Reachable settings n) :
    s.transaction.Invariant n ∧
    (∀ depth operation sql t, Task.isControl t = false →
      ∃ es r s', exec (Tx.runTask depth operation sql t) s = (r, s') ∧
        s'.world = s.world.recordAll es ∧ Running n depth s.transaction es s'.transaction) ∧
    (∀ depth, ∃ es r s', exec (Tx.commit depth) s = (r, s') ∧
      s'.world = s.world.recordAll es ∧ Committing n depth s.transaction es r s'.transaction) ∧
    ∀ depth, ∃ es r s', exec (Tx.rollback depth) s = (r, s') ∧
      s'.world = s.world.recordAll es ∧ RollingBack n depth s.transaction es r s'.transaction := by
  have hi := h.invariant
  have hc (depth : Nat) : s.transaction.stack.Open depth → s.transaction.connection = some n :=
    hi.connection_of_open
  exact ⟨hi, fun depth operation sql t ht => Tx.exec_runTask (hc depth) operation sql ht,
    fun depth => Tx.exec_commit (hc depth), fun depth => Tx.exec_rollback (hc depth)⟩

-- A statement of the first nested transaction made its savepoint, and that of the second is due.
theorem Session.invariant_of_two_nested :
    let settings : TransactionSettings :=
      .standard .empty .sqlite { Config.standard with useNestedTransactions := true }
    let world : World Unit := .new ⟨"SQLite", fun _ _ => .ok .none⟩ ()
    let uses : List (Nat × Handle.Use) :=
      [(0, .nested), (1, .runTask "execute a statement" "SELECT 1" (.query "SELECT 1" []) rfl), (1, .nested)]
    let s : Session Unit := uses.foldl (fun s u => (exec (u.2.run ⟨u.1, false⟩) s).2) ⟨.new settings 0, world⟩
    s.transaction.stack.savepoints = [none, some ⟨1, true⟩, some ⟨2, false⟩] ∧
      s.Reachable settings 0 ∧ s.transaction.Invariant 0 := by
  intro settings world uses s
  have hs : s.Reachable settings 0 := (((Reachable.start world).use _ 0).use _ 1).use _ 1
  exact ⟨rfl, hs, (invariant_of_reachable hs).1⟩

end PolySql
