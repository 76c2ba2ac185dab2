import PolySql.Proofs.Transaction.Computation

namespace PolySql

-- The part of a session that has no say in how a transaction is carried out.
structure Aside (ρ : Type) where
  abandoned : List Nat
  orphaned : Bool
  snapshot : Snapshot
  draws : Draws
  askedIds : Nat
  application : ρ

namespace Session

variable {ρ : Type} (s : Session ρ)

def aside : Aside ρ :=
  ⟨s.transaction.abandoned, s.transaction.orphaned, s.world.snapshot, s.world.draws,
    s.world.askedIds, s.world.application⟩

def withAside (a : Aside ρ) : Session ρ where
  transaction := { s.transaction with abandoned := a.abandoned, orphaned := a.orphaned }
  world := { s.world with
    snapshot := a.snapshot
    draws := a.draws
    askedIds := a.askedIds
    application := a.application }

@[simp]
theorem withAside_aside : s.withAside s.aside = s :=
  rfl

@[simp]
theorem aside_withAside (a : Aside ρ) : (s.withAside a).aside = a :=
  rfl

end Session

-- The computation does not look at what is aside, and leaves it as it is.
def Tx.Ignores {ρ α : Type} (x : Tx ρ α) : Prop :=
  ∀ (s : Session ρ) (a : Aside ρ), exec x (s.withAside a) = ((exec x s).1, (exec x s).2.withAside a)

namespace Tx.Ignores

variable {ρ α β : Type} {x : Tx ρ α}

theorem aside_eq (h : Ignores x) (s : Session ρ) : (exec x s).2.aside = s.aside := by
  have he := h s s.aside
  rw [Session.withAside_aside] at he
  rw [he, Session.aside_withAside]

theorem abandoned_eq (h : Ignores x) (s : Session ρ) :
    (exec x s).2.transaction.abandoned = s.transaction.abandoned :=
  congrArg Aside.abandoned (h.aside_eq s)

theorem orphaned_eq (h : Ignores x) (s : Session ρ) :
    (exec x s).2.transaction.orphaned = s.transaction.orphaned :=
  congrArg Aside.orphaned (h.aside_eq s)

theorem pure (a : α) : Ignores (Pure.pure a : Tx ρ α) :=
  fun _ _ => rfl

theorem throw (e : DatabaseError) : Ignores (MonadExcept.throw e : Tx ρ α) :=
  fun _ _ => rfl

theorem ofResult (r : Result α) : Ignores (Tx.ofResult r : Tx ρ α) :=
  fun _ _ => rfl

theorem stack : Ignores (Tx.stack : Tx ρ Stack) :=
  fun _ _ => rfl

theorem settings : Ignores (Tx.settings : Tx ρ TransactionSettings) :=
  fun _ _ => rfl

theorem setStack (stack : Stack) : Ignores (Tx.setStack stack : Tx ρ Unit) :=
  fun _ _ => rfl

theorem disconnect : Ignores (Tx.disconnect : Tx ρ Unit) :=
  fun _ _ => rfl

theorem notify (n : Notice) : Ignores (Tx.notify n : Tx ρ Unit) :=
  fun _ _ => rfl

theorem runHooks (hooks : List String) : Ignores (Tx.runHooks hooks : Tx ρ Unit) :=
  fun _ _ => rfl

theorem bind {f : α → Tx ρ β} (hx : Ignores x) (hf : ∀ a, Ignores (f a)) : Ignores (x >>= f) := by
  intro s a
  rw [exec_bind, exec_bind, hx]
  rcases exec x s with ⟨e | b, s'⟩
  case error => rfl
  case ok => exact hf b s' a

theorem change (f : Stack → Result Stack) : Ignores (Tx.change f : Tx ρ Unit) :=
  stack.bind fun _ => (ofResult _).bind fun _ => setStack _

theorem outcome (hx : Ignores x) : Ignores x.outcome := by
  intro s a
  rw [exec_outcome, exec_outcome, hx]

theorem ignore (hx : Ignores x) : Ignores x.ignore :=
  hx.outcome.bind fun _ => pure ()

theorem perform (operation : String) (t : Task) : Ignores (Tx.perform operation t : Tx ρ Answer) := by
  intro s a
  rw [Tx.perform, exec_bind, exec_bind, exec_get, exec_get]
  dsimp only
  have hc : (s.withAside a).transaction.connection = s.transaction.connection := rfl
  rw [hc]
  cases s.transaction.connection
  case none => rfl
  case some => rfl

theorem control (c : Control) : Ignores (Tx.control c : Tx ρ Unit) := by
  refine (perform _ _).outcome.bind fun r => ?_
  cases r
  case error => exact throw _
  case ok => exact pure ()

theorem forM_control (cs : List Control) : Ignores (cs.forM Tx.control : Tx ρ Unit) := by
  induction cs
  case nil => exact pure ()
  case cons c rest ih => exact (control c).bind fun _ => ih

theorem apply (cs : List Control) : Ignores (Tx.apply cs : Tx ρ Unit) := by
  intro s a
  cases cs
  case nil => rfl
  case cons c rest =>
    rw [Tx.apply.eq_2 _ (List.cons_ne_nil c rest), exec_bind, exec_bind, exec_transaction,
      exec_transaction]
    dsimp only
    have hc : (s.withAside a).transaction.connection = s.transaction.connection := rfl
    have hs : (s.withAside a).transaction.stack = s.transaction.stack := rfl
    rw [hc, hs]
    cases s.transaction.connection
    case none => rfl
    case some => exact forM_control (c :: rest) s a

theorem abort : Ignores (Tx.abort : Tx ρ Unit) :=
  stack.bind fun _ => (setStack _).bind fun _ => (apply _).ignore.bind fun _ =>
    disconnect.bind fun _ => runHooks _

theorem runTask (depth : Nat) (operation sql : String) (t : Task) :
    Ignores (Tx.runTask depth operation sql t : Tx ρ Answer) := by
  refine settings.bind fun _ => stack.bind fun _ => (ofResult _).bind fun (controls, stack) =>
    (setStack stack).bind fun _ => (apply controls).outcome.bind fun r => ?_
  cases r
  case error => exact abort.bind fun _ => throw _
  case ok =>
    exact (notify _).bind fun _ => (perform _ _).outcome.bind fun _ => (notify _).bind fun _ =>
      ofResult _

theorem rollback (depth : Nat) : Ignores (Tx.rollback depth : Tx ρ Unit) := by
  refine stack.bind fun s => (ofResult _).bind fun controls => ?_
  cases s.rollsBackEverything depth
  case true =>
    refine (notify _).bind fun _ => (apply controls).outcome.bind fun r => ?_
    cases r
    case error => exact abort.bind fun _ => throw _
    case ok =>
      exact (setStack _).bind fun _ => disconnect.bind fun _ => (notify _).bind fun _ => runHooks _
  case false =>
    refine (apply controls).outcome.bind fun r => ?_
    cases r
    case error => exact abort.bind fun _ => throw _
    case ok => exact (setStack _).bind fun _ => runHooks _

theorem commit (depth : Nat) : Ignores (Tx.commit depth : Tx ρ Unit) := by
  refine stack.bind fun s => (ofResult _).bind fun controls => ?_
  by_cases hd : depth = 0
  case pos =>
    simp only [hd, if_true]
    refine (notify _).bind fun _ => (apply controls).outcome.bind fun r => ?_
    cases r
    case error => exact abort.bind fun _ => throw _
    case ok =>
      exact (setStack _).bind fun _ => disconnect.bind fun _ => (notify _).bind fun _ => runHooks _
  case neg =>
    simp only [hd, if_false]
    refine (apply controls).outcome.bind fun r => ?_
    cases r
    case error => exact (rollback depth).ignore.bind fun _ => throw _
    case ok => exact (setStack _).bind fun _ => runHooks _

end Tx.Ignores

end PolySql
