import PolySql.Execution.Operation
import PolySql.Proofs.Transaction.Aside
import PolySql.Proofs.Transaction.Controls

namespace PolySql

-- There is nothing to clean up: frames that were given up wait for frames inside them.
def Session.Tidy {ρ : Type} (s : Session ρ) : Prop :=
  s.transaction.stack.top ∉ s.transaction.abandoned

theorem Session.Tidy.of_abandoned_eq_nil {ρ : Type} {s : Session ρ} (h : s.transaction.abandoned = []) : s.Tidy := by
  rw [Tidy, h]
  exact List.not_mem_nil

theorem Session.Tidy.of_transaction_eq {ρ : Type} {s s' : Session ρ} (h : s'.transaction = s.transaction)
    (hs : s.Tidy) : s'.Tidy := by
  rwa [Tidy, h]

namespace Tx

variable {ρ : Type} {s : Session ρ}

theorem exec_rollback_of_not_active (h : s.transaction.stack.status depth ≠ .active) :
    (exec (rollback depth) s).2 = s := by
  have ⟨e, he⟩ := exec_rollback_of_not_open fun ho => h ho.active
  rw [he]

-- A transaction that has ended is not rolled back, which would change nothing.
theorem exec_discard (depth : Nat) :
    exec (Handle.discard depth) s = (.ok (),
      (exec (rollback depth) s).2.withStack
        ((exec (rollback depth) s).2.transaction.stack.pop depth)) := by
  by_cases h : s.transaction.stack.status depth = .active
  case pos => simp [Handle.discard, exec_bind, h]
  case neg =>
    rw [exec_rollback_of_not_active h]
    simp [Handle.discard, exec_bind, h]

theorem Ignores.discard (depth : Nat) : Ignores (Handle.discard depth : Tx ρ Unit) := by
  refine stack.bind fun s => ?_
  split
  case isTrue => exact (rollback depth).ignore.bind fun _ => stack.bind fun _ => setStack _
  case isFalse => exact stack.bind fun _ => setStack _

theorem exec_setAbandoned (depths : List Nat) : exec (Handle.setAbandoned depths) s = (.ok (),
    { s with transaction := { s.transaction with abandoned := depths } }) :=
  rfl

theorem exec_discardAbandoned_of_mem (h : s.transaction.stack.top ∈ s.transaction.abandoned) :
    exec (Handle.discardAbandoned (fuel + 1)) s =
      exec (Handle.discardAbandoned fuel)
        (exec (Handle.discard s.transaction.stack.top) { s with transaction := { s.transaction with
          abandoned := s.transaction.abandoned.erase s.transaction.stack.top } }).2 := by
  rw [Handle.discardAbandoned, exec_bind, exec_transaction]
  dsimp only
  rw [if_pos (List.contains_iff_mem.mpr h), exec_bind_of_ok (exec_setAbandoned _),
    exec_bind_of_ok (exec_discard _), exec_discard]

theorem exec_discardAbandoned_of_tidy (h : s.Tidy) :
    exec (Handle.discardAbandoned fuel) s = (.ok (), s) := by
  cases fuel
  case zero => rfl
  case succ =>
    rw [Handle.discardAbandoned, exec_bind, exec_transaction]
    dsimp only
    rw [if_neg (mt List.contains_iff_mem.mp h)]
    rfl

theorem exec_discardAbandoned_fst (fuel : Nat) : (exec (Handle.discardAbandoned fuel) s).1 = .ok () := by
  induction fuel generalizing s
  case zero => rfl
  case succ fuel ih =>
    by_cases ha : s.transaction.stack.top ∈ s.transaction.abandoned
    case pos =>
      rw [exec_discardAbandoned_of_mem ha]
      exact ih
    case neg => rw [exec_discardAbandoned_of_tidy ha]

theorem tidy_discardAbandoned (hf : s.transaction.abandoned.length ≤ fuel) :
    (exec (Handle.discardAbandoned fuel) s).2.Tidy := by
  induction fuel generalizing s
  case zero => exact .of_abandoned_eq_nil (List.length_eq_zero_iff.mp (Nat.le_zero.mp hf))
  case succ fuel ih =>
    by_cases ha : s.transaction.stack.top ∈ s.transaction.abandoned
    case pos =>
      rw [exec_discardAbandoned_of_mem ha]
      refine ih ?_
      have hlen := List.length_erase_of_mem ha
      rw [(Ignores.discard _).abandoned_eq]
      dsimp only
      omega
    case neg =>
      rw [exec_discardAbandoned_of_tidy ha]
      exact ha

theorem exec_enter_shared {h : Handle} (hs : h.shared = true) :
    exec h.enter s = exec (Handle.discardAbandoned s.transaction.abandoned.length) s := by
  rw [Handle.enter, if_pos hs]
  rfl

theorem exec_enter (h : Handle) : exec h.enter s = (.ok (), (exec h.enter s).2) := by
  cases hs : h.shared
  case false =>
    rw [Handle.enter, if_neg (by simp [hs])]
    rfl
  case true =>
    rw [exec_enter_shared hs]
    exact Prod.ext (exec_discardAbandoned_fst _) rfl

theorem tidy_enter {h : Handle} (hs : h.shared = true) : (exec h.enter s).2.Tidy := by
  rw [exec_enter_shared hs]
  exact tidy_discardAbandoned (Nat.le_refl _)

theorem exec_enter_of_tidy {h : Handle} (hs : h.shared = true → s.Tidy) : exec h.enter s = (.ok (), s) := by
  cases hshared : h.shared
  case false => rw [Handle.enter, if_neg (by simp [hshared]), exec_pure]
  case true => rw [exec_enter_shared hshared, exec_discardAbandoned_of_tidy (hs hshared)]

-- A statement leaves as many frames as there were, even if it fails.
theorem top_exec_runTask (depth : Nat) (operation sql : String) (t : Task) :
    (exec (runTask depth operation sql t) s).2.transaction.stack.top = s.transaction.stack.top := by
  by_cases ho : s.transaction.stack.Open depth
  case neg =>
    obtain ⟨e, he⟩ := exec_runTask_of_not_open ho operation sql t
    rw [he]
  case pos =>
    obtain ⟨es, r, happly⟩ := exec_apply_after (s := s.withStack s.transaction.stack.prepared)
      (s.transaction.stack.due s.transaction.settings.dialect.effectiveIsolation)
    simp only [runTask, exec_bind, exec_settings, exec_stack, exec_ofResult, Stack.prepare_of_open ho,
      exec_setStack, exec_outcome, happly]
    cases r
    case error e =>
      obtain ⟨s', habort, hstack⟩ := exec_abort_after (s := (s.withStack s.transaction.stack.prepared).after es)
      rw [exec_bind_of_ok habort, exec_throw, hstack]
      simp [Stack.top, Stack.aborted, Stack.rolledBackFrom, Stack.prepared]
    case ok =>
      simp only [exec_bind, exec_notify, exec_outcome, exec_ofResult, Session.transaction_after,
        transaction_exec_perform]
      simp [Stack.top, Stack.prepared]

end Tx

theorem Session.Tidy.runTask {ρ : Type} {s : Session ρ} (hs : s.Tidy) (depth : Nat) (operation sql : String)
    (t : Task) : (exec (Tx.runTask depth operation sql t) s).2.Tidy := by
  rw [Session.Tidy, Tx.top_exec_runTask, (Tx.Ignores.runTask depth operation sql t).abandoned_eq]
  exact hs

-- The cleanup before the second statement would be idle.
theorem Handle.insertThenAsk_eq {ρ : Type} (h : Handle) (c : Command) (query : String) :
    (h.insertThenAsk c query : Tx ρ Answer) = (do
      let _ ← h.runExecute c
      h.runQuery ⟨query, []⟩) := by
  refine eq_of_exec_eq fun s => ?_
  rw [insertThenAsk, runExecute, runTask, bind_assoc, bind_assoc, exec_bind_of_ok (Tx.exec_enter h),
    exec_bind_of_ok (Tx.exec_enter h)]
  have htidy := fun hs : h.shared = true => (Tx.tidy_enter (s := s) hs).runTask h.depth "execute a statement" c.sql
    (.execute c.sql c.params)
  rcases hx : exec (Tx.runTask h.depth "execute a statement" c.sql (.execute c.sql c.params)) (exec h.enter s).2 with
    ⟨e | a, s'⟩
  case error => rw [exec_bind_of_error hx, exec_bind_of_error hx]
  case ok =>
    rw [hx] at htidy
    rw [exec_bind_of_ok hx, exec_bind_of_ok hx, exec_bind_of_ok (exec_pure _), runQuery, runTask,
      exec_bind_of_ok (Tx.exec_enter_of_tidy htidy)]

end PolySql
