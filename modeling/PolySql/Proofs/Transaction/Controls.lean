import PolySql.Proofs.Transaction.Computation
import PolySql.Proofs.Transaction.Stack

namespace PolySql

def Task.isControl : Task → Bool
  | control _ => true
  | _ => false

-- Controls carried out one after the other up to the first that fails: what is recorded of it, and
-- the outcome.
inductive Tried (connection : Nat) : List Control → List Event → Result Unit → Prop
  | done : Tried connection [] [] (.ok ())
  | failed (sent : List Request) (e : DatabaseError) :
    Tried connection (c :: rest) [.task connection (.control c) sent false]
      (.error (.withContext ("Transaction control " ++ c.shown ++ " failed") e))
  | next (sent : List Request) :
    Tried connection rest es r →
    Tried connection (c :: rest) (.task connection (.control c) sent true :: es) r

-- Gives up on a transaction.
inductive Aborting (connection : Nat) (t : Transaction) : List Event → Transaction → Prop
  | intro :
    Tried connection t.stack.abortControls es r →
    Aborting connection t (es ++ hookEvents t.stack.aborted.1)
      { t with stack := t.stack.aborted.2, connection := none }

-- Runs a statement of the frame at the given depth.
inductive Running (connection depth : Nat) (t : Transaction) : List Event → Transaction → Prop
  | refused : ¬t.stack.Open depth → Running connection depth t [] t
  | ran (sql : String) (sent : List Request) (succeeded : Bool) :
    t.stack.Open depth →
    Tried connection (t.stack.due t.settings.dialect.effectiveIsolation) es (.ok ()) →
    Task.isControl task = false →
    Running connection depth t
      (es ++ t.told (.beforeStatement sql) ++ [.task connection task sent succeeded] ++
        t.told (.afterStatement sql))
      { t with stack := t.stack.prepared }
  | unprepared :
    t.stack.Open depth →
    Tried connection (t.stack.due t.settings.dialect.effectiveIsolation) es (.error e) →
    Aborting connection { t with stack := t.stack.prepared } es' t' →
    Running connection depth t (es ++ es') t'

inductive RollingBack (connection depth : Nat) (t : Transaction) :
    List Event → Result Unit → Transaction → Prop
  | refused : ¬t.stack.Open depth → RollingBack connection depth t [] (.error e) t
  | whole :
    t.stack.Open depth →
    t.stack.rollsBackEverything depth = true →
    Tried connection (t.stack.rollingBack depth) es (.ok ()) →
    RollingBack connection depth t
      (t.told .beforeRollback ++ es ++ t.told .afterRollback ++
        hookEvents (t.stack.rolledBack depth).1) (.ok ())
      { t with stack := (t.stack.rolledBack depth).2, connection := none }
  | inner :
    t.stack.Open depth →
    t.stack.rollsBackEverything depth = false →
    Tried connection (t.stack.rollingBack depth) es (.ok ()) →
    RollingBack connection depth t (es ++ hookEvents (t.stack.rolledBack depth).1) (.ok ())
      { t with stack := (t.stack.rolledBack depth).2 }
  | failed :
    t.stack.Open depth →
    Tried connection (t.stack.rollingBack depth) es (.error e) →
    Aborting connection t es' t' →
    RollingBack connection depth t
      ((if t.stack.rollsBackEverything depth then t.told .beforeRollback else []) ++ es ++ es')
      (.error e) t'

inductive Committing (connection depth : Nat) (t : Transaction) :
    List Event → Result Unit → Transaction → Prop
  | refused : ¬t.stack.Open depth → Committing connection depth t [] (.error e) t
  | outermost :
    t.stack.Open depth →
    depth = 0 →
    Tried connection (t.stack.committing depth) es (.ok ()) →
    Committing connection depth t
      (t.told .beforeCommit ++ es ++ t.told .afterCommit ++
        hookEvents (t.stack.committed depth).1) (.ok ())
      { t with stack := (t.stack.committed depth).2, connection := none }
  | inner :
    t.stack.Open depth →
    depth ≠ 0 →
    Tried connection (t.stack.committing depth) es (.ok ()) →
    Committing connection depth t (es ++ hookEvents (t.stack.committed depth).1) (.ok ())
      { t with stack := (t.stack.committed depth).2 }
  | outermostFailed :
    t.stack.Open depth →
    depth = 0 →
    Tried connection (t.stack.committing depth) es (.error e) →
    Aborting connection t es' t' →
    Committing connection depth t (t.told .beforeCommit ++ es ++ es') (.error e) t'
  | innerFailed :
    t.stack.Open depth →
    depth ≠ 0 →
    Tried connection (t.stack.committing depth) es (.error e) →
    RollingBack connection depth t es' r t' →
    Committing connection depth t (es ++ es') (.error e) t'

-- A rollback that is not refused ends the frame.
theorem RollingBack.status_ne_active (h : RollingBack n depth t es r t')
    (ho : t.stack.Open depth) : t'.stack.status depth ≠ .active := by
  cases h
  case refused hn => exact absurd ho hn
  case whole | inner =>
    refine Stack.status_rolledBackFrom_ne_active ?_
    split <;> simp
  case failed ha =>
    cases ha
    exact Stack.status_rolledBackFrom_ne_active (Nat.zero_le _)

-- So does a commit, whether it succeeds or not.
theorem Committing.status_ne_active (h : Committing n depth t es r t')
    (ho : t.stack.Open depth) : t'.stack.status depth ≠ .active := by
  cases h
  case refused hn => exact absurd ho hn
  case outermost | inner => exact Stack.status_committed_ne_active ho.active
  case outermostFailed ha =>
    cases ha
    exact Stack.status_rolledBackFrom_ne_active (Nat.zero_le _)
  case innerFailed hr => exact hr.status_ne_active ho

namespace Tx

variable {ρ : Type} {s : Session ρ}

theorem exec_perform (operation : String) (t : Task) (h : s.transaction.connection = some n) :
    ∃ sent r, exec (perform operation t) s = (r, s.after [.task n t sent r.toBool]) := by
  let answered := s.world.server.answerAll s.world.requests .none
    (t.requests s.transaction.settings.dialect)
  refine ⟨answered.1, answered.2, ?_⟩
  simp only [perform, exec_bind, exec_get, h]
  rfl

theorem exec_control (c : Control) (h : s.transaction.connection = some n) :
    (∃ sent, exec (control c) s = (.ok (), s.after [.task n (.control c) sent true])) ∨
    ∃ sent e, exec (control c) s =
      (.error (.withContext ("Transaction control " ++ c.shown ++ " failed") e),
        s.after [.task n (.control c) sent false]) := by
  have ⟨sent, r, hp⟩ := exec_perform "use the connection" (.control c) h
  simp only [control, exec_bind, exec_outcome, hp]
  cases r
  case ok => exact .inl ⟨sent, rfl⟩
  case error e => exact .inr ⟨sent, e, rfl⟩

theorem exec_forM_control (cs : List Control) (h : s.transaction.connection = some n) :
    ∃ es r, exec (cs.forM control) s = (r, s.after es) ∧ Tried n cs es r := by
  induction cs generalizing s
  case nil => exact ⟨[], .ok (), by simp [List.forM, Session.after], .done⟩
  case cons c rest ih =>
    rcases exec_control c h with ⟨sent, hc⟩ | ⟨sent, e, hc⟩
    · obtain ⟨es, r, he, ht⟩ := ih (s := s.after [.task n (.control c) sent true]) h
      refine ⟨_, r, ?_, .next sent ht⟩
      rw [List.forM, exec_bind_of_ok hc]
      simpa [Session.after] using he
    · exact ⟨_, _, exec_bind_of_error hc, .failed sent e⟩

theorem exec_apply (cs : List Control) (h : s.transaction.connection = some n) :
    ∃ es r, exec (apply cs) s = (r, s.after es) ∧ Tried n cs es r := by
  cases cs
  case nil => exact ⟨[], .ok (), by simp [apply, Session.after], .done⟩
  case cons c rest =>
    obtain ⟨es, r, he, ht⟩ := exec_forM_control (c :: rest) h
    refine ⟨es, r, ?_, ht⟩
    simp only [apply, exec_bind, exec_transaction, h]
    exact he

theorem exec_abort (h : s.transaction.connection = some n) :
    ∃ es s', exec abort s = (.ok (), s') ∧ s'.world = s.world.recordAll es ∧
      Aborting n s.transaction es s'.transaction := by
  have ⟨es, r, he, hr⟩ := exec_apply (s := s.withStack s.transaction.stack.aborted.2)
    s.transaction.stack.abortControls h
  simp only [abort, exec_bind, exec_stack, exec_setStack, exec_ignore, exec_disconnect,
    exec_runHooks, he]
  exact ⟨es ++ hookEvents s.transaction.stack.aborted.1, _, rfl, by simp, .intro hr⟩

-- Whether or not there is a connection, only events come of what is asked of it.
theorem exec_apply_after (cs : List Control) : ∃ es r, exec (apply cs) s = (r, s.after es) := by
  cases hc : s.transaction.connection
  case some n =>
    have ⟨es, r, he, _⟩ := exec_apply cs hc
    exact ⟨es, r, he⟩
  case none =>
    cases cs
    case nil => exact ⟨[], .ok (), by simp [apply]⟩
    case cons =>
      refine ⟨[], .error (.transactionClosed (s.transaction.stack.status 0) "use the connection"), ?_⟩
      simp [apply, exec_bind, hc]

theorem transaction_exec_perform (operation : String) (t : Task) :
    (exec (perform operation t) s).2.transaction = s.transaction := by
  cases hc : s.transaction.connection
  case none => simp [perform, exec_bind, hc]
  case some n =>
    have ⟨_, _, he⟩ := exec_perform operation t hc
    rw [he]
    rfl

theorem exec_abort_after : ∃ s', exec abort s = (.ok (), s') ∧
    s'.transaction.stack = s.transaction.stack.aborted.2 := by
  have ⟨es, r, he⟩ := exec_apply_after (s := s.withStack s.transaction.stack.aborted.2)
    s.transaction.stack.abortControls
  simp only [abort, exec_bind, exec_stack, exec_setStack, exec_ignore, exec_disconnect, exec_runHooks, he]
  exact ⟨_, rfl, rfl⟩

theorem exec_runTask_of_not_open (h : ¬s.transaction.stack.Open depth) (operation sql : String) (t : Task) :
    ∃ e, exec (runTask depth operation sql t) s = (.error e, s) := by
  have ⟨e, he⟩ := Stack.prepare_of_not_open h s.transaction.settings.dialect.effectiveIsolation operation
  exact ⟨e, by simp only [runTask, exec_bind, exec_settings, exec_stack, exec_ofResult, he]⟩

theorem exec_rollback_of_not_open (h : ¬s.transaction.stack.Open depth) :
    ∃ e, exec (rollback depth) s = (.error e, s) := by
  have ⟨e, he⟩ := Stack.rollbackControls_of_not_open h
  exact ⟨e, by simp only [rollback, exec_bind, exec_stack, exec_ofResult, he]⟩

theorem exec_commit_of_not_open (h : ¬s.transaction.stack.Open depth) :
    ∃ e, exec (commit depth) s = (.error e, s) := by
  have ⟨e, he⟩ := Stack.commitControls_of_not_open h
  exact ⟨e, by simp only [commit, exec_bind, exec_stack, exec_ofResult, he]⟩

section

-- Only the frame that may act needs the connection.
variable (hc : s.transaction.stack.Open depth → s.transaction.connection = some n)

include hc

theorem exec_runTask (operation sql : String) (ht : t.isControl = false) :
    ∃ es r s', exec (runTask depth operation sql t) s = (r, s') ∧
      s'.world = s.world.recordAll es ∧ Running n depth s.transaction es s'.transaction := by
  let effective := s.transaction.settings.dialect.effectiveIsolation
  by_cases ho : s.transaction.stack.Open depth
  case neg =>
    have ⟨e, he⟩ := exec_runTask_of_not_open ho operation sql t
    exact ⟨[], .error e, s, he, by simp, .refused ho⟩
  case pos =>
    simp only [runTask, exec_bind, exec_settings, exec_stack, exec_ofResult, exec_setStack]
    let s₁ := s.withStack s.transaction.stack.prepared
    have ⟨es, r, he, hr⟩ := exec_apply (s := s₁) (s.transaction.stack.due effective) (hc ho)
    simp only [effective, s₁] at he
    simp only [Stack.prepare_of_open ho, exec_outcome, he]
    cases r
    case error e =>
      have ⟨es', s', ha, hw, hab⟩ := exec_abort (s := s₁.after es) (hc ho)
      exact ⟨es ++ es', .error e, s', by rw [exec_bind_of_ok ha, exec_throw], by simp [hw, s₁],
        .unprepared ho hr hab⟩
    case ok =>
      let s₂ := (s₁.after es).after (s.transaction.told (.beforeStatement sql))
      have ⟨sent, r, hp⟩ := exec_perform operation t (s := s₂) (hc ho)
      simp only [exec_bind, exec_notify, exec_outcome, exec_ofResult]
      simp only [s₁, s₂, Transaction.told] at hp
      simp only [Transaction.told, Session.transaction_after, Session.transaction_withStack, hp]
      exact ⟨_, _, _, rfl, by simp [Transaction.told], .ran sql sent r.toBool ho hr ht⟩

theorem exec_rollback :
    ∃ es r s', exec (rollback depth) s = (r, s') ∧ s'.world = s.world.recordAll es ∧
      RollingBack n depth s.transaction es r s'.transaction := by
  by_cases ho : s.transaction.stack.Open depth
  case neg =>
    have ⟨e, he⟩ := exec_rollback_of_not_open ho
    exact ⟨[], .error e, s, he, by simp, .refused ho⟩
  case pos =>
    simp only [rollback, exec_bind, exec_stack, exec_ofResult]
    let s₁ := s.after (if s.transaction.stack.rollsBackEverything depth then
      s.transaction.told .beforeRollback else [])
    have ⟨es, r, he, hr⟩ := exec_apply (s := s₁) (s.transaction.stack.rollingBack depth) (hc ho)
    simp only [Stack.rollbackControls_of_open ho]
    cases r
    case error e =>
      have ⟨es', s', ha, hw, hab⟩ := exec_abort (s := s₁.after es) (hc ho)
      refine ⟨_, .error e, s', ?_, ?_, .failed ho hr hab⟩
      · cases hb : s.transaction.stack.rollsBackEverything depth
        all_goals
          simp only [s₁, hb, if_true, if_false, Bool.false_eq_true, Session.after_nil] at he ha
          simp only [exec_bind, exec_notify, exec_outcome, if_true, if_false, Bool.false_eq_true, he,
            ha, exec_throw]
      · simp [hw, s₁]
    case ok =>
      cases hb : s.transaction.stack.rollsBackEverything depth
      case false =>
        simp only [s₁, hb, if_false, Bool.false_eq_true, Session.after_nil] at he
        simp only [exec_bind, exec_outcome, if_false, Bool.false_eq_true, he, exec_setStack,
          exec_runHooks]
        exact ⟨_, _, _, rfl, by simp, .inner ho hb hr⟩
      case true =>
        simp only [s₁, hb, if_true] at he
        simp only [exec_bind, exec_outcome, exec_notify, if_true, he, exec_setStack,
          exec_disconnect, exec_runHooks]
        exact ⟨_, _, _, rfl, by simp [Transaction.told], .whole ho hb hr⟩

theorem exec_commit :
    ∃ es r s', exec (commit depth) s = (r, s') ∧ s'.world = s.world.recordAll es ∧
      Committing n depth s.transaction es r s'.transaction := by
  by_cases ho : s.transaction.stack.Open depth
  case neg =>
    have ⟨e, he⟩ := exec_commit_of_not_open ho
    exact ⟨[], .error e, s, he, by simp, .refused ho⟩
  case pos =>
    simp only [commit, exec_bind, exec_stack, exec_ofResult, Stack.commitControls_of_open ho]
    by_cases h₀ : depth = 0
    case pos =>
      subst h₀
      let s₁ := s.after (s.transaction.told .beforeCommit)
      have ⟨es, r, he, hr⟩ := exec_apply (s := s₁) (s.transaction.stack.committing 0) (hc ho)
      simp only [s₁] at he
      simp only [if_true, exec_bind, exec_notify, exec_outcome, he]
      cases r
      case error e =>
        have ⟨es', s', ha, hw, hab⟩ := exec_abort (s := s₁.after es) (hc ho)
        simp only [s₁] at ha
        exact ⟨_, .error e, s', by simp only [exec_bind, ha, exec_throw], by simp [hw, s₁],
          .outermostFailed ho rfl hr hab⟩
      case ok =>
        simp only [exec_bind, exec_setStack, exec_disconnect, exec_notify, exec_runHooks]
        exact ⟨_, _, _, rfl, by simp [Transaction.told], .outermost ho rfl hr⟩
    case neg =>
      have ⟨es, r, he, hr⟩ := exec_apply (s.transaction.stack.committing depth) (hc ho)
      simp only [h₀, if_false, exec_bind, exec_outcome, he]
      cases r
      case error e =>
        have ⟨es', r', s', hb, hw, hrb⟩ := exec_rollback (s := s.after es) hc
        exact ⟨_, .error e, s', by simp only [exec_bind, exec_ignore, hb, exec_throw],
          by simp [hw], .innerFailed ho h₀ hr hrb⟩
      case ok =>
        simp only [exec_bind, exec_setStack, exec_runHooks]
        exact ⟨_, _, _, rfl, by simp, .inner ho h₀ hr⟩

end

end Tx

end PolySql
