import PolySql.Proofs.Transaction.Aside
import PolySql.Proofs.Transaction.Attempt

namespace PolySql

-- Is the event no request for a connection, and no use of any but the given one?
def Event.StaysOn (connection : Option Nat) : Event → Prop
  | connect _ => False
  | task n .. => connection = some n
  | notice .. | hook _ => True

-- A relation of a session to what may become of it. It admits every single change that a transaction
-- makes: of its stack, of its connection, of what has happened, and of what is aside but the snapshot.
class Session.Law {ρ : Type} (r : Session ρ → Session ρ → Prop) : Prop where
  trans {s s' s'' : Session ρ} : r s s' → r s' s'' → r s s''
  withStack (s : Session ρ) (stack : Stack) : r s (s.withStack stack)
  disconnected (s : Session ρ) : r s s.disconnected
  after (s : Session ρ) (es : List Event) :
    (∀ e ∈ es, e.StaysOn s.transaction.connection) → r s (s.after es)
  withAside (s : Session ρ) (a : Aside ρ) : a.snapshot = s.world.snapshot → r s (s.withAside a)

theorem Session.Law.refl {ρ : Type} {r : Session ρ → Session ρ → Prop} [Session.Law r] (s : Session ρ) :
    r s s :=
  withAside s s.aside rfl

def Tx.Abides {ρ α : Type} (r : Session ρ → Session ρ → Prop) (x : Tx ρ α) : Prop :=
  ∀ s, r s (exec x s).2

namespace Tx.Abides

section

variable {ρ α : Type} {r : Session ρ → Session ρ → Prop} {x y : Tx ρ α}

theorem outcome (hx : Abides r x) : Abides r x.outcome :=
  hx

theorem ignore (hx : Abides r x) : Abides r x.ignore :=
  hx

theorem ite {c : Prop} [Decidable c] (hx : Abides r x) (hy : Abides r y) :
    Abides r (if c then x else y) := by
  split <;> assumption

end

variable {ρ α β : Type} {r : Session ρ → Session ρ → Prop} [Session.Law r] {x : Tx ρ α}

theorem of_forall (h : ∀ s : Session ρ, (exec x s).2 = s) : Abides r x :=
  fun s => (h s).symm ▸ Session.Law.refl s

theorem of_aside (h : ∀ s : Session ρ, ∃ a : Aside ρ,
    a.snapshot = s.world.snapshot ∧ (exec x s).2 = s.withAside a) : Abides r x := by
  intro s
  obtain ⟨a, ha, he⟩ := h s
  exact he ▸ Session.Law.withAside s a ha

theorem pure (a : α) : Abides r (Pure.pure a : Tx ρ α) :=
  of_forall fun _ => rfl

theorem throw (e : DatabaseError) : Abides r (MonadExcept.throw e : Tx ρ α) :=
  of_forall fun _ => rfl

theorem ofResult (result : Result α) : Abides r (Tx.ofResult result : Tx ρ α) :=
  of_forall fun _ => rfl

theorem transaction : Abides r (Tx.transaction : Tx ρ Transaction) :=
  of_forall fun _ => rfl

theorem settings : Abides r (Tx.settings : Tx ρ TransactionSettings) :=
  of_forall fun _ => rfl

theorem context : Abides r (Tx.context : Tx ρ Context) :=
  of_forall fun _ => rfl

theorem stack : Abides r (Tx.stack : Tx ρ Stack) :=
  of_forall fun _ => rfl

theorem setStack (stack : Stack) : Abides r (Tx.setStack stack : Tx ρ Unit) :=
  fun s => Session.Law.withStack s stack

theorem disconnect : Abides r (Tx.disconnect : Tx ρ Unit) :=
  Session.Law.disconnected

theorem notify (n : Notice) : Abides r (Tx.notify n : Tx ρ Unit) :=
  fun s => Session.Law.after s (s.transaction.told n) (by simp [Transaction.told, Event.StaysOn])

theorem runHooks (hooks : List String) : Abides r (Tx.runHooks hooks : Tx ρ Unit) :=
  fun s => Session.Law.after s (hookEvents hooks) (by simp [hookEvents, Event.StaysOn])

theorem setAbandoned (depths : List Nat) : Abides r (Handle.setAbandoned depths : Tx ρ Unit) :=
  of_aside fun s => ⟨{ s.aside with abandoned := depths }, rfl, rfl⟩

theorem draft (f : Draft α) : Abides r (Tx.draft f : Tx ρ α) :=
  of_aside fun s => ⟨{ s.aside with draws := (f s.world.draws).2 }, rfl, rfl⟩

theorem askId (table : TableId) : Abides r (Tx.askId table : Tx ρ (Option Value)) :=
  of_aside fun s => ⟨{ s.aside with askedIds := s.world.askedIds + 1 }, rfl, rfl⟩

theorem bind {f : α → Tx ρ β} (hx : Abides r x) (hf : ∀ a, Abides r (f a)) :
    Abides r (x >>= f) := by
  intro s
  have h := hx s
  rcases he : exec x s with ⟨e | a, s'⟩
  all_goals rw [he] at h
  case error => rwa [exec_bind_of_error he]
  case ok =>
    rw [exec_bind_of_ok he]
    exact Session.Law.trans h (hf a s')

-- A step that may be left out before the others.
theorem guarded {c : Prop} [Decidable c] {x : Tx ρ Unit} {f : Unit → Tx ρ β} (hx : Abides r x)
    (hf : ∀ a, Abides r (f a)) : Abides r (if c then x >>= f else f ()) :=
  ite (hx.bind hf) (hf ())

theorem change (f : Stack → Result Stack) : Abides r (Tx.change f : Tx ρ Unit) :=
  stack.bind fun _ => (ofResult _).bind fun _ => setStack _

theorem perform (operation : String) (t : Task) :
    Abides r (Tx.perform operation t : Tx ρ Answer) := by
  intro s
  cases hc : s.transaction.connection
  case none => simpa [Tx.perform, exec_bind, hc] using Session.Law.refl s
  case some n =>
    obtain ⟨sent, result, he⟩ := exec_perform operation t hc
    rw [he]
    exact Session.Law.after s _ (by simp [Event.StaysOn, hc])

theorem control (c : Control) : Abides r (Tx.control c : Tx ρ Unit) := by
  refine (perform _ _).outcome.bind fun r => ?_
  cases r
  case error => exact throw _
  case ok => exact pure ()

theorem forM_control (cs : List Control) : Abides r (cs.forM Tx.control : Tx ρ Unit) := by
  induction cs
  case nil => exact pure ()
  case cons c rest ih => exact (control c).bind fun _ => ih

theorem apply (cs : List Control) : Abides r (Tx.apply cs : Tx ρ Unit) := by
  cases cs
  case nil => exact pure ()
  case cons c rest =>
    rw [Tx.apply.eq_2 _ (List.cons_ne_nil c rest)]
    exact transaction.bind fun t => guarded (throw _) fun _ => forM_control (c :: rest)

theorem abort : Abides r (Tx.abort : Tx ρ Unit) :=
  stack.bind fun _ => (setStack _).bind fun _ => (apply _).ignore.bind fun _ =>
    disconnect.bind fun _ => runHooks _

theorem runTask (depth : Nat) (operation sql : String) (t : Task) :
    Abides r (Tx.runTask depth operation sql t : Tx ρ Answer) := by
  refine settings.bind fun _ => stack.bind fun _ => (ofResult _).bind fun (controls, stack) =>
    (setStack stack).bind fun _ => (apply controls).outcome.bind fun result => ?_
  cases result
  case error => exact abort.bind fun _ => throw _
  case ok =>
    exact (notify _).bind fun _ => (perform _ _).outcome.bind fun _ => (notify _).bind fun _ =>
      ofResult _

theorem rollback (depth : Nat) : Abides r (Tx.rollback depth : Tx ρ Unit) := by
  refine stack.bind fun s => (ofResult _).bind fun controls =>
    guarded (notify _) fun _ => (apply controls).outcome.bind fun result => ?_
  cases result
  case error => exact abort.bind fun _ => throw _
  case ok =>
    exact (setStack _).bind fun _ =>
      ite (disconnect.bind fun _ => (notify _).bind fun _ => runHooks _) (runHooks _)

theorem commit (depth : Nat) : Abides r (Tx.commit depth : Tx ρ Unit) := by
  refine stack.bind fun s => (ofResult _).bind fun controls =>
    guarded (notify _) fun _ => (apply controls).outcome.bind fun result => ?_
  cases result
  case error =>
    exact ite (abort.bind fun _ => throw _) ((rollback depth).ignore.bind fun _ => throw _)
  case ok =>
    exact (setStack _).bind fun _ =>
      ite (disconnect.bind fun _ => (notify _).bind fun _ => runHooks _) (runHooks _)

theorem settle : Abides r (Tx.settle : Tx ρ Unit) :=
  transaction.bind fun _ => ite abort (pure ())

section

variable {h : Handle}

theorem discard (depth : Nat) : Abides r (Handle.discard depth : Tx ρ Unit) :=
  stack.bind fun _ => guarded (rollback depth).ignore fun _ => stack.bind fun _ => setStack _

theorem discardAbandoned (fuel : Nat) : Abides r (Handle.discardAbandoned fuel : Tx ρ Unit) := by
  induction fuel
  case zero => exact pure ()
  case succ fuel ih =>
    exact transaction.bind fun _ =>
      ite ((setAbandoned _).bind fun _ => (discard _).bind fun _ => ih) (pure ())

theorem enter : Abides r (h.enter : Tx ρ Unit) :=
  ite (transaction.bind fun _ => discardAbandoned _) (pure ())

theorem status : Abides r (h.status : Tx ρ TransactionStatus) :=
  enter.bind fun _ => stack.bind fun _ => pure _

theorem handleSettings : Abides r (h.settings : Tx ρ TransactionSettings) :=
  enter.bind fun _ => transaction.bind fun _ => pure _

theorem drop : Abides r (h.drop : Tx ρ Unit) := by
  refine ite (discard _) (ite (transaction.bind fun _ => setAbandoned _) ?_)
  exact stack.bind fun _ =>
    ite (of_aside fun s => ⟨{ s.aside with orphaned := true }, rfl, rfl⟩) (pure ())

theorem retire : Abides r (h.retire : Tx ρ Unit) :=
  stack.bind fun _ => ite drop (setStack _)

theorem endBy {step : Nat → Tx ρ Unit} (hs : Abides r (step h.depth)) : Abides r (h.endBy step) :=
  enter.bind fun _ => hs.outcome.bind fun _ => guarded retire fun _ => ofResult _

theorem nested : Abides r (h.nested : Tx ρ Handle) :=
  enter.bind fun _ => (change _).bind fun _ => stack.bind fun _ => pure _

theorem finish (result : Result α) : Abides r (h.finish result : Tx ρ α) := by
  refine status.bind fun _ => ite (drop.bind fun _ => ofResult _) ?_
  cases result
  case ok =>
    exact (endBy (commit _)).outcome.bind fun _ => guarded drop fun _ => ofResult _
  case error =>
    exact (endBy (rollback _)).ignore.bind fun _ => guarded drop fun _ => throw _

theorem scope {body : Handle → Tx ρ α} (hb : ∀ h, Abides r (body h)) : Abides r (h.scope body) :=
  nested.bind fun _ => (hb _).outcome.bind fun _ => finish _

theorem trial {body : Handle → Tx ρ α} (hb : ∀ h, Abides r (body h)) (shared : Bool) :
    Abides r (Manager.trial shared body) :=
  (hb _).outcome.bind fun _ => (finish _).outcome.bind fun _ => settle.bind fun _ => ofResult _

theorem compile (s : Statement) : Abides r (Handle.compile s : Tx ρ Command) :=
  context.bind fun _ => ofResult _

theorem runQuery (c : Command) : Abides r (h.runQuery c : Tx ρ Answer) :=
  enter.bind fun _ => runTask _ _ _ _

theorem runExecute (c : Command) : Abides r (h.runExecute c : Tx ρ Nat) :=
  (enter.bind fun _ => runTask _ _ _ _).bind fun _ => pure _

theorem execute (s : Statement) : Abides r (h.execute s : Tx ρ Nat) :=
  (compile s).bind fun c => ite ((runQuery c).bind fun _ => pure _) (runExecute c)

theorem query (s : Statement) : Abides r (h.query s : Tx ρ Rows) :=
  (compile s).bind fun _ => context.bind fun _ => (runQuery _).bind fun _ => pure _

theorem queryOne (s : Statement) : Abides r (h.queryOne s : Tx ρ (Option Row)) := by
  refine (query s).bind fun rows => ?_
  cases rows.next?
  case none => exact pure none
  case some => exact (ofResult _).bind fun _ => pure _

theorem planInsert (table : TableId) (values : List (ColumnId × Column)) :
    Abides r (Tx.planInsert table values : Tx ρ InsertPlan) := by
  refine context.bind fun cx => (ofResult _).bind fun key => ?_
  dsimp only
  split
  case isTrue => exact (pure none).bind fun _ => (draft _).bind fun _ => ofResult _
  case isFalse => exact (askId table).bind fun _ => (draft _).bind fun _ => ofResult _

theorem insertThenAsk (c : Command) (query : String) :
    Abides r (h.insertThenAsk c query : Tx ρ Answer) :=
  enter.bind fun _ => (runTask _ _ _ _).bind fun _ => runTask _ _ _ _

theorem insertedKey (p : InsertPlan) (c : Command) : Abides r (h.insertedKey p c : Tx ρ Value) := by
  unfold Handle.insertedKey
  cases p.source
  case given => exact (runExecute c).bind fun _ => pure _
  case returned => exact (runQuery c).bind fun _ => ofResult _
  case asked => exact (insertThenAsk c _).bind fun _ => ofResult _

theorem insert (type : HostType) (table : TableId) (values : List (ColumnId × Column)) :
    Abides r (h.insert type table values : Tx ρ EntityId) :=
  (planInsert table values).bind fun _ => (compile _).bind fun _ =>
    (insertedKey _ _).bind fun _ => context.bind fun _ => ofResult _

theorem executeAll (cs : List Command) : Abides r (h.executeAll cs : Tx ρ Nat) := by
  induction cs
  case nil => exact pure 0
  case cons c rest ih => exact (runExecute c).bind fun _ => ih.bind fun _ => pure _

theorem insertBatch (b : BatchInsert) : Abides r (h.insertBatch b : Tx ρ Nat) :=
  context.bind fun _ => (ofResult _).bind fun _ => executeAll _

theorem updateBatch (b : BatchUpdate) : Abides r (h.updateBatch b : Tx ρ Nat) :=
  context.bind fun _ => (ofResult _).bind fun _ => (enter.bind fun _ => runTask _ _ _ _).bind
    fun _ => pure _

theorem tableNames : Abides r (h.tableNames : Tx ρ (List String)) :=
  context.bind fun _ => (runQuery _).bind fun _ => ofResult _

theorem tableSpec (name : String) : Abides r (h.tableSpec name : Tx ρ TableSpec) :=
  context.bind fun _ => (runQuery _).bind fun _ => (runQuery _).bind fun _ => (runQuery _).bind fun _ =>
    (runQuery _).bind fun _ => ofResult _

theorem tableSpecs (names : List String) : Abides r (h.tableSpecs names : Tx ρ (List TableSpec)) := by
  induction names
  case nil => exact pure []
  case cons name rest ih => exact (tableSpec name).bind fun _ => ih.bind fun _ => pure _

theorem introspect : Abides r (h.introspect : Tx ρ DatabaseSpec) :=
  tableNames.bind fun _ => (tableSpecs _).bind fun _ => pure _

end

section

variable {r : Session Notes → Session Notes → Prop} [Session.Law r] {h : Handle}

theorem notes : Abides r Step.notes :=
  of_forall fun _ => rfl

theorem setNotes (n : Notes) : Abides r (Step.setNotes n) :=
  of_aside fun s => ⟨{ s.aside with application := n }, rfl, rfl⟩

theorem report (result : Result Reply) (inner : Option (List Report)) :
    Abides r (Step.report h result inner) :=
  of_aside fun s => ⟨{ s.aside with application := s.world.takeLog.2.application }, rfl, rfl⟩

theorem silent {x : Step.Run Unit} (hx : Abides r x) : Abides r (Step.silent x) :=
  hx.bind fun _ => pure _

theorem close (outcome : List Report × Result Unit) : Abides r (Step.close outcome) :=
  notes.bind fun _ => (setNotes _).bind fun _ => ofResult _

theorem withBody {x : Step.Run Reply} (hx : Abides r x) : Abides r (Step.withBody x) :=
  notes.bind fun _ => notes.bind fun _ => (setNotes _).bind fun _ => hx.outcome.bind fun _ =>
    notes.bind fun _ => (setNotes _).bind fun _ => pure _

theorem keep (name : Option String) : Abides r (Step.keepReply h name) :=
  handleSettings.bind fun _ => notes.bind fun _ => (setNotes _).bind fun _ => of_forall fun _ => rfl

theorem plain (step : Step) : Abides r (step.plain h) := by
  cases step
  case execute s => exact (draft s).bind fun _ => (execute _).bind fun _ => pure _
  case query s most wanted => exact (draft s).bind fun _ => (query _).bind fun _ => pure _
  case queryOne s wanted => exact (draft s).bind fun _ => (queryOne _).bind fun _ => pure _
  case insert type table values =>
    exact (draft values).bind fun _ => (insert _ _ _).bind fun _ => settings.bind fun _ =>
      (ofResult _).bind fun _ => pure _
  case insertBatch b => exact (draft b).bind fun _ => (insertBatch _).bind fun _ => pure _
  case updateBatch b => exact (updateBatch b).bind fun _ => pure _
  case introspect => exact introspect.bind fun _ => pure _
  case tableNames => exact tableNames.bind fun _ => pure _
  case tableExists name => exact (tableNames.bind fun _ => pure _).bind fun _ => pure _
  case supports c => exact (context.bind fun _ => pure _).bind fun _ => pure _
  case setIsolation | setReadOnly | onCommit | onRollback =>
    exact silent (enter.bind fun _ => change _)
  case info => exact status.bind fun _ => handleSettings.bind fun _ => pure _
  case keep name => exact keep name
  case fail e => exact throw e
  case commit => exact silent (endBy (commit _))
  case rollback => exact silent (endBy (rollback _))
  case nested | scope | caught => exact pure _

theorem finishedNested (ending : Ending) : Abides r (Step.finishNested h ending) := by
  refine ite (stack.bind fun _ => drop.bind fun _ => pure _) ?_
  cases ending
  case commit => exact silent (endBy (commit _))
  case rollback => exact silent (endBy (rollback _))
  case drop => exact silent drop

mutual

theorem performStep (h : Handle) (s : Step) : Abides r (s.perform h) := by
  cases s
  case nested steps ending =>
    rw [Step.perform]
    refine nested.outcome.bind fun result => ?_
    cases result
    case error => exact pure _
    case ok inner =>
      exact (runAll inner steps).bind fun _ => (finishedNested ending).outcome.bind fun _ => pure _
  case scope steps =>
    rw [Step.perform]
    exact withBody (scope fun inner => (runUntil inner steps).bind close)
  case caught s =>
    rw [Step.perform]
    exact performStep h s
  all_goals exact (plain _).outcome.bind fun _ => pure _

theorem runAll (h : Handle) (ss : List Step) : Abides r (Step.runAll h ss) := by
  cases ss
  case nil => exact pure []
  case cons s rest =>
    exact (performStep h s).bind fun _ => (report _ _).bind fun _ => (runAll h rest).bind fun _ => pure _

theorem runUntil (h : Handle) (ss : List Step) : Abides r (Step.runUntil h ss) := by
  cases ss
  case nil => exact pure _
  case cons s rest =>
    refine (performStep h s).bind fun _ => (report _ _).bind fun _ => ?_
    split
    · exact pure _
    · exact (runUntil h rest).bind fun _ => pure _

end

-- The body of an attempt that carries out what was written down for it.
theorem nextBody (bodies : List (List Step)) : Abides r (Bench.nextBody bodies h) :=
  notes.bind fun _ => (runUntil h _).bind close

end

end Tx.Abides

end PolySql
