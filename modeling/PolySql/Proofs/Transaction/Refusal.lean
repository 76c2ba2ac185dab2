import PolySql.Proofs.Transaction.Reachability

namespace PolySql

-- The errors by which a transaction refuses an operation: it has ended, a transaction inside it is open,
-- its settings are inherited, or they are settled.
inductive DatabaseError.Refuses : DatabaseError → Prop
  | closed (status : TransactionStatus) (operation : String) :
    Refuses (.transactionClosed status operation)
  | nestedOpen (operation : String) :
    Refuses (.transaction ("cannot " ++ operation ++ ": a nested transaction is still open"))
  | inherited (operation : String) :
    Refuses (.transaction ("cannot " ++ operation ++
      ": a nested transaction inherits the settings of the outermost one"))
  | settled (operation : String) :
    Refuses (.transaction ("cannot " ++ operation ++ " after the first statement of the transaction"))

-- The kinds of error that compilation has.
def DatabaseError.isOfCompilation : DatabaseError → Bool
  | compilation _ | unsupported .. | typeMismatch .. => true
  | _ => false

-- The ways to use a handle that the transaction may refuse.
inductive Operation
  | execute (statement : Statement)
  | query (statement : Statement)
  | insert (type : HostType) (table : TableId) (values : List (ColumnId × Column))
  | insertBatch (batch : BatchInsert)
  | updateBatch (batch : BatchUpdate)
  | nested
  | onCommit (hook : String)
  | onRollback (hook : String)
  | setIsolation (level : Isolation)
  | setReadOnly (readOnly : Bool)
  | commit
  | rollback

-- The step without what it finds out.
def Tx.done {ρ α : Type} (x : Tx ρ α) : Tx ρ Unit := do
  let _ ← x
  return

namespace Operation

open Tx

variable {ρ : Type}

def perform (h : Handle) : Operation → Tx ρ Unit
  | execute s => done <| h.execute s
  | query s => done <| h.query s
  | insert type table values => done <| h.insert type table values
  | insertBatch b => done <| h.insertBatch b
  | updateBatch b => done <| h.updateBatch b
  | nested => done h.nested
  | onCommit hook => h.onCommit hook
  | onRollback hook => h.onRollback hook
  | setIsolation level => h.setIsolation level
  | setReadOnly readOnly => h.setReadOnly readOnly
  | commit => h.commit
  | rollback => h.rollback

-- All that the operation compiles.
def compiled : Operation → Tx ρ Unit
  | execute s | query s => done <| Handle.compile s
  | insert _ table values => do
    let plan ← planInsert table values
    done <| Handle.compile (.insert plan.insert)
  | insertBatch b => do done <| ofResult (b.compile (← context))
  | updateBatch b => do done <| ofResult (b.compile (← context))
  | _ => return

def isInsert : Operation → Bool
  | insert .. => true
  | _ => false

end Operation

theorem Stack.Open.prepared {s : Stack} (h : s.Open depth) : s.prepared.Open depth where
  active := by
    have ha := h.active
    simp only [status, Stack.prepared, List.getElem?_map] at ha ⊢
    cases hf : s.frames[depth]?
    case none => simp [hf] at ha
    case some => simpa [hf, Frame.established] using ha
  innermost := by simpa [top, Stack.prepared] using h.innermost

-- A control fails in the context that names it.
theorem Tried.error_eq (h : Tried n cs es (.error e)) : ∃ context source, e = .withContext context source := by
  generalize hr : Except.error e = r at h
  induction h
  case done => nomatch hr
  case failed =>
    cases hr
    exact ⟨_, _, rfl⟩
  case next ih => exact ih hr

theorem RollingBack.error_eq (h : RollingBack n depth t es (.error e) t') (ho : t.stack.Open depth) :
    ∃ context source, e = .withContext context source := by
  cases h
  case refused hn => exact absurd ho hn
  case failed ht _ => exact ht.error_eq

theorem Committing.error_eq (h : Committing n depth t es (.error e) t') (ho : t.stack.Open depth) :
    ∃ context source, e = .withContext context source := by
  cases h
  case refused hn => exact absurd ho hn
  case outermostFailed ht _ => exact ht.error_eq
  case innerFailed ht _ => exact ht.error_eq

namespace Tx

variable {ρ α β : Type} {depth : Nat} {bad : DatabaseError → Prop}

-- With the frame that may act, the computation leaves it in its place or fails, but by no bad error.
def Runs (depth : Nat) (bad : DatabaseError → Prop) (x : Tx ρ α) : Prop :=
  ∀ (s : Session ρ) n, s.transaction.stack.Open depth → s.transaction.connection = some n →
    match exec x s with
    | (.ok _, s') => s'.transaction.stack.Open depth ∧ s'.transaction.connection = some n
    | (.error e, _) => ¬bad e

-- The computation fails with any other frame, before it does anything.
def Guarded (depth : Nat) (x : Tx ρ α) : Prop :=
  ∀ s : Session ρ, ¬s.transaction.stack.Open depth → ∃ e, exec x s = (.error e, s)

-- The computation leaves nothing behind if it fails by a bad error.
def Spares (n : Nat) (bad : DatabaseError → Prop) (x : Tx ρ α) : Prop :=
  ∀ (s : Session ρ) e, s.transaction.Connected n → (exec x s).1 = .error e → bad e →
    s.Alike (exec x s).2

theorem Guarded.bind {x : Tx ρ α} (hx : Guarded depth x) (f : α → Tx ρ β) :
    Guarded depth (x >>= f) := by
  intro s hs
  have ⟨e, he⟩ := hx s hs
  exact ⟨e, exec_bind_of_error he⟩

namespace Runs

variable {x : Tx ρ α}

theorem bind {f : α → Tx ρ β} (hx : Runs depth bad x) (hf : ∀ a, Runs depth bad (f a)) :
    Runs depth bad (x >>= f) := by
  intro s n ho hc
  have h := hx s n ho hc
  rcases he : exec x s with ⟨e | a, s'⟩
  case error =>
    rw [he] at h
    rwa [exec_bind_of_error he]
  case ok =>
    rw [he] at h
    rw [exec_bind_of_ok he]
    exact hf a s' n h.1 h.2

theorem ofResult {r : Result α} (h : ∀ e, r = .error e → ¬bad e) :
    Runs depth bad (Tx.ofResult r : Tx ρ α) := by
  intro s n ho hc
  rw [exec_ofResult]
  cases r
  case error e => exact h e rfl
  case ok => exact ⟨ho, hc⟩

theorem pure (a : α) : Runs depth bad (Pure.pure a : Tx ρ α) :=
  fun _ _ ho hc => ⟨ho, hc⟩

theorem context : Runs depth bad (Tx.context : Tx ρ Context) :=
  fun _ _ ho hc => ⟨ho, hc⟩

theorem notify (n : Notice) : Runs depth bad (Tx.notify n : Tx ρ Unit) :=
  fun _ _ ho hc => ⟨ho, hc⟩

-- Whether the task fails or not, the transaction goes on.
theorem perform (operation : String) (t : Task) :
    Runs depth bad (Tx.perform operation t : Tx ρ Answer).outcome := by
  intro s n ho hc
  have ⟨_, _, he⟩ := exec_perform operation t hc
  rw [exec_outcome, he]
  exact ⟨ho, hc⟩

theorem spares {x : Tx ρ α} (hr : Runs depth bad x) (hg : Guarded depth x) (n : Nat) :
    Spares n bad x := by
  intro s e hs he hb
  by_cases ho : s.transaction.stack.Open depth
  case neg =>
    have ⟨e', he'⟩ := hg s ho
    rw [he']
    exact .refl _
  case pos =>
    have h := hr s n ho (hs.of_open ho)
    rcases hx : exec x s with ⟨r, s'⟩
    rw [hx] at h he
    subst he
    exact absurd hb h

end Runs

namespace Spares

variable {n : Nat}

theorem of_hidden {x : Tx ρ α} (h : Hidden x) : Spares n bad x :=
  fun s _ _ _ _ => h s

theorem bind_hidden {x : Tx ρ α} {f : α → Tx ρ β} (hx : Hidden x) (hf : ∀ a, Spares n bad (f a)) :
    Spares n bad (x >>= f) := by
  intro s e hs he hb
  have h := hx s
  rcases hx : exec x s with ⟨_ | a, s'⟩
  all_goals rw [hx] at h
  case error => rwa [exec_bind_of_error hx]
  case ok =>
    rw [exec_bind_of_ok hx] at he ⊢
    have h' := hf a s' e (h.transaction ▸ hs) he hb
    exact h.trans h'

theorem done {x : Tx ρ α} (hx : Spares n bad x) : Spares n bad x.done := by
  intro s e hs he hb
  rw [Tx.done, exec_bind] at *
  rcases hr : exec x s with ⟨e' | a, s'⟩
  case error =>
    rw [hr] at he
    cases he
    have h := hx s _ hs (by rw [hr]) hb
    rwa [hr] at h
  case ok =>
    rw [hr] at he
    nomatch he

-- Without a change of the stack nothing has happened.
theorem change (f : Stack → Result Stack) : Spares n bad (Tx.change f : Tx ρ Unit) := by
  intro s e _ he _
  rw [exec_change] at *
  cases hf : f s.transaction.stack
  case error => exact .refl _
  case ok =>
    rw [hf] at he
    nomatch he

end Spares

section

variable (hbad : ∀ context source, ¬bad (.withContext context source))

include hbad

theorem runs_runTask (depth : Nat) (operation sql : String) (t : Task) :
    Runs depth bad (runTask depth operation sql t : Tx ρ Answer) := by
  intro s n ho hc
  have hfails (r : Result Answer) (e : DatabaseError)
      (h : r.withContext ("Database operation failed: " ++ sql) = .error e) : ¬bad e := by
    cases r
    case error =>
      cases h
      exact hbad _ _
    case ok => cases h
  obtain ⟨es, r, he, ht⟩ := exec_apply (s := s.withStack s.transaction.stack.prepared)
    (s.transaction.stack.due s.transaction.settings.dialect.effectiveIsolation) hc
  simp only [runTask, exec_bind, exec_settings, exec_stack, exec_ofResult, Stack.prepare_of_open ho,
    exec_setStack, exec_outcome, he]
  cases r
  case error e =>
    obtain ⟨es', s', ha, _⟩ := exec_abort (s := (s.withStack s.transaction.stack.prepared).after es) hc
    obtain ⟨context, source, rfl⟩ := ht.error_eq
    rw [exec_bind_of_ok ha]
    exact hbad context source
  case ok =>
    exact (Runs.notify _).bind (fun _ => (Runs.perform operation t).bind fun r =>
      (Runs.notify _).bind fun _ => .ofResult (hfails r)) _ n ho.prepared hc

end

theorem guarded_runTask (depth : Nat) (operation sql : String) (t : Task) :
    Guarded depth (runTask depth operation sql t : Tx ρ Answer) :=
  fun _ ho => exec_runTask_of_not_open ho operation sql t

end Tx

namespace DatabaseError.Refuses

theorem not_withContext (context : String) (source : DatabaseError) :
    ¬Refuses (.withContext context source) :=
  nofun

theorem not_decode {type : ColumnType} (h : type.decode v = .error e) : ¬Refuses e := by
  rw [ColumnType.decode] at h
  split at h
  · nomatch h
  · cases h
    exact nofun

theorem not_generatedKey {plan : InsertPlan} (h : plan.generatedKey a = .error e) : ¬Refuses e := by
  rw [InsertPlan.generatedKey] at h
  split at h
  · exact not_decode h
  · cases h
    generalize hm : "the insert reported no generated key" = m
    rintro (_ | _ | _ | _)
    all_goals simp [String.ext_iff] at hm

theorem not_resolve (h : InsertPlan.resolve c type table v = .error e) : ¬Refuses e := by
  cases hn : v.isNull
  case true =>
    simp [InsertPlan.resolve, EntityId.resolve, hn, bind, Except.bind] at h
    cases h
    exact nofun
  case false =>
    cases hc : type.convert? v <;>
      simp [InsertPlan.resolve, EntityId.resolve, EntityId.new, EntityId.value, HostType.convert, hn, hc,
        bind, Except.bind, pure, Except.pure] at h
    cases h
    exact nofun

end DatabaseError.Refuses

-- The errors by which the transaction refuses an operation, and those of the kinds of compilation.
def DatabaseError.Rejects (e : DatabaseError) : Prop :=
  e.Refuses ∨ e.isOfCompilation = true

theorem DatabaseError.not_rejects_withContext (context : String) (source : DatabaseError) :
    ¬(DatabaseError.withContext context source).Rejects := by
  rintro (h | h) <;> nomatch h

namespace Tx

variable {ρ : Type} {depth : Nat} {bad : DatabaseError → Prop}

section

variable (hbad : ∀ context source, ¬bad (.withContext context source))

include hbad

theorem runs_runQuery (c : Command) :
    Runs depth bad (Handle.runQuery ⟨depth, false⟩ c : Tx ρ Answer) :=
  runs_runTask hbad depth _ _ _

theorem runs_runExecute (c : Command) :
    Runs depth bad (Handle.runExecute ⟨depth, false⟩ c : Tx ρ Nat) :=
  (runs_runTask hbad depth _ _ _).bind fun _ => .pure _

theorem runs_insertThenAsk (c : Command) (query : String) :
    Runs depth bad (Handle.insertThenAsk ⟨depth, false⟩ c query : Tx ρ Answer) := by
  rw [Handle.insertThenAsk_eq]
  exact (runs_runExecute hbad c).bind fun _ => runs_runQuery hbad _

theorem runs_executeAll (cs : List Command) :
    Runs depth bad (Handle.executeAll ⟨depth, false⟩ cs : Tx ρ Nat) := by
  induction cs
  case nil => exact .pure 0
  case cons c rest ih => exact (runs_runExecute hbad c).bind fun _ => ih.bind fun _ => .pure _

end

theorem guarded_runQuery (c : Command) :
    Guarded depth (Handle.runQuery ⟨depth, false⟩ c : Tx ρ Answer) :=
  guarded_runTask depth _ _ _

theorem guarded_runExecute (c : Command) :
    Guarded depth (Handle.runExecute ⟨depth, false⟩ c : Tx ρ Nat) :=
  Guarded.bind (guarded_runTask depth _ _ _) _

theorem guarded_insertThenAsk (c : Command) (query : String) :
    Guarded depth (Handle.insertThenAsk ⟨depth, false⟩ c query : Tx ρ Answer) := by
  rw [Handle.insertThenAsk_eq]
  exact (guarded_runExecute c).bind _

theorem runs_insertedKey (p : InsertPlan) (c : Command) :
    Runs depth DatabaseError.Refuses (Handle.insertedKey ⟨depth, false⟩ p c : Tx ρ Value) := by
  have hbad := DatabaseError.Refuses.not_withContext
  have hkey (a : Answer) : Runs depth DatabaseError.Refuses (ofResult (p.generatedKey a) : Tx ρ Value) :=
    .ofResult fun _ => DatabaseError.Refuses.not_generatedKey
  unfold Handle.insertedKey
  cases p.source
  case given => exact (runs_runExecute hbad c).bind fun _ => .pure _
  case returned => exact (runs_runQuery hbad c).bind fun _ => hkey _
  case asked => exact (runs_insertThenAsk hbad c _).bind fun _ => hkey _

theorem guarded_insertedKey (p : InsertPlan) (c : Command) :
    Guarded depth (Handle.insertedKey ⟨depth, false⟩ p c : Tx ρ Value) := by
  unfold Handle.insertedKey
  cases p.source
  case given => exact (guarded_runExecute c).bind _
  case returned => exact (guarded_runQuery c).bind _
  case asked => exact (guarded_insertThenAsk c _).bind _

theorem hidden_context : Hidden (context : Tx ρ Context) :=
  .of_forall fun _ => rfl

theorem hidden_ofResult {α : Type} (r : Result α) : Hidden (ofResult r : Tx ρ α) :=
  .of_forall fun _ => rfl

theorem hidden_compile (s : Statement) : Hidden (Handle.compile s : Tx ρ Command) :=
  .of_forall fun _ => rfl

theorem Hidden.bind {α β : Type} {x : Tx ρ α} {f : α → Tx ρ β} (hx : Hidden x)
    (hf : ∀ a, Hidden (f a)) : Hidden (x >>= f) := by
  intro s
  have h := hx s
  rcases he : exec x s with ⟨_ | a, s'⟩
  all_goals rw [he] at h
  case error => rwa [exec_bind_of_error he]
  case ok =>
    rw [exec_bind_of_ok he]
    have h' := hf a s'
    exact h.trans h'

theorem hidden_planInsert (table : TableId) (values : List (ColumnId × Column)) :
    Hidden (planInsert table values : Tx ρ InsertPlan) := by
  refine hidden_context.bind fun cx => (hidden_ofResult _).bind fun key => ?_
  have hdraft (asked : Option Value) : Hidden (do
      let insert ← draft (Insert.new cx.catalog table
        (values ++ asked.toList.map fun v => (key, .param v)))
      ofResult (InsertPlan.withKey cx key insert) : Tx ρ InsertPlan) :=
    Hidden.bind (fun _ => ⟨rfl, rfl, rfl⟩) fun _ => hidden_ofResult _
  dsimp only
  cases values.any (·.1 == key)
  case true => exact hdraft none
  case false => exact Hidden.bind (fun _ => ⟨rfl, rfl, rfl⟩) hdraft

end Tx

namespace Tx.Spares

variable {ρ α : Type} {n depth : Nat} {bad : DatabaseError → Prop}

theorem enter {f : Unit → Tx ρ α} (hf : Spares n bad (f ())) :
    Spares n bad (Handle.enter ⟨depth, false⟩ >>= f) :=
  bind_hidden (.of_forall fun _ => rfl) fun _ => hf

theorem nested (depth : Nat) : Spares n bad (Handle.nested ⟨depth, false⟩ : Tx ρ Handle) := by
  refine enter fun s e _ he _ => ?_
  rw [exec_bind, exec_change] at *
  cases hf : s.transaction.stack.push depth
  case error => exact .refl _
  case ok =>
    rw [hf] at he
    nomatch he

variable (hbad : ∀ context source, ¬bad (.withContext context source))

include hbad

theorem rollback (depth : Nat) : Spares n bad (Tx.rollback depth : Tx ρ Unit) := by
  intro s e hs he hb
  by_cases ho : s.transaction.stack.Open depth
  case pos =>
    have ⟨es, r, s', hx, _, hr⟩ := exec_rollback fun (ho : s.transaction.stack.Open depth) => hs.of_open ho
    rw [hx] at he
    subst he
    obtain ⟨context, source, rfl⟩ := hr.error_eq ho
    exact absurd hb (hbad context source)
  case neg =>
    have ⟨e', hx⟩ := exec_rollback_of_not_open ho
    rw [hx]
    exact .refl _

theorem commit (depth : Nat) : Spares n bad (Tx.commit depth : Tx ρ Unit) := by
  intro s e hs he hb
  by_cases ho : s.transaction.stack.Open depth
  case pos =>
    have ⟨es, r, s', hx, _, hr⟩ := exec_commit fun (ho : s.transaction.stack.Open depth) => hs.of_open ho
    rw [hx] at he
    subst he
    obtain ⟨context, source, rfl⟩ := hr.error_eq ho
    exact absurd hb (hbad context source)
  case neg =>
    have ⟨e', hx⟩ := exec_commit_of_not_open ho
    rw [hx]
    exact .refl _

end Tx.Spares

namespace Operation

variable {ρ : Type}

-- What an operation does after its compilation.
theorem spares (op : Operation) (hi : op.isInsert = false) (n depth : Nat) :
    Tx.Spares n DatabaseError.Rejects (op.perform ⟨depth, false⟩ : Tx ρ Unit) := by
  have hbad := DatabaseError.not_rejects_withContext
  cases op
  case execute s =>
    refine Tx.Spares.done (.bind_hidden (Tx.hidden_compile s) fun command => ?_)
    cases s.returnsRows
    case true =>
      exact ((Tx.runs_runQuery hbad command).bind fun _ => .pure _).spares
        ((Tx.guarded_runQuery command).bind _) n
    case false => exact (Tx.runs_runExecute hbad command).spares (Tx.guarded_runExecute command) n
  case query s =>
    refine Tx.Spares.done (.bind_hidden (Tx.hidden_compile s) fun command =>
      .bind_hidden Tx.hidden_context fun _ => ?_)
    exact ((Tx.runs_runQuery hbad command).bind fun _ => .pure _).spares
      ((Tx.guarded_runQuery command).bind _) n
  case insert => nomatch hi
  case insertBatch b =>
    refine Tx.Spares.done (.bind_hidden Tx.hidden_context fun _ =>
      .bind_hidden (Tx.hidden_ofResult _) fun commands => ?_)
    cases commands
    case nil => exact .of_hidden (.of_forall fun _ => rfl)
    case cons c rest =>
      exact (Tx.runs_executeAll hbad (c :: rest)).spares ((Tx.guarded_runExecute c).bind _) n
  case updateBatch b =>
    refine Tx.Spares.done (.bind_hidden Tx.hidden_context fun _ =>
      .bind_hidden (Tx.hidden_ofResult _) fun compiled => ?_)
    exact ((Tx.runs_runTask hbad depth _ _ _).bind fun _ => .pure _).spares
      ((Tx.guarded_runTask depth _ _ _).bind _) n
  case nested => exact (Tx.Spares.nested depth).done
  case onCommit hook => exact .enter (.change _)
  case onRollback hook => exact .enter (.change _)
  case setIsolation level => exact .enter (.change _)
  case setReadOnly readOnly => exact .enter (.change _)
  case commit => exact Tx.Spares.commit hbad depth
  case rollback => exact Tx.Spares.rollback hbad depth

-- An insert decodes the key that it reports, and the server may have given it anything. So of an insert
-- only the refusals tell that nothing was done.
theorem spares_insert (type : HostType) (table : TableId) (values : List (ColumnId × Column))
    (n depth : Nat) :
    Tx.Spares n DatabaseError.Refuses
      ((insert type table values).perform ⟨depth, false⟩ : Tx ρ Unit) := by
  refine Tx.Spares.done (.bind_hidden (Tx.hidden_planInsert table values) fun plan =>
    .bind_hidden (Tx.hidden_compile _) fun command => ?_)
  have hkey (key : Value) : Tx.Runs depth DatabaseError.Refuses
      (do Tx.ofResult (InsertPlan.resolve (← Tx.context).catalog type table key) : Tx ρ EntityId) :=
    Tx.Runs.context.bind fun _ => .ofResult fun _ => DatabaseError.Refuses.not_resolve
  exact ((Tx.runs_insertedKey plan command).bind hkey).spares
    ((Tx.guarded_insertedKey plan command).bind _) n

-- If an insert cannot be compiled, then it goes no further.
theorem alike_insert_of_compiled_error (type : HostType) (table : TableId)
    (values : List (ColumnId × Column)) (h : Handle) {s : Session ρ}
    (hc : (exec (insert type table values).compiled s).1 = .error e) :
    s.Alike (exec ((insert type table values).perform h) s).2 := by
  have hplan := Tx.hidden_planInsert table values s
  simp only [compiled, perform, Handle.insert, Tx.done, exec_bind] at hc ⊢
  rcases hx : exec (Tx.planInsert table values) s with ⟨_ | plan, s'⟩
  all_goals rw [hx] at hc hplan
  case error => exact hplan
  case ok =>
    have hcompile := Tx.hidden_compile (.insert plan.insert) s'
    simp only at hc ⊢
    rcases hy : exec (Handle.compile (.insert plan.insert)) s' with ⟨_ | command, s''⟩
    all_goals rw [hy] at hc hcompile
    case error => exact hplan.trans hcompile
    case ok => nomatch hc

end Operation

-- An operation that the transaction refuses, or that cannot be compiled, does nothing at all.
theorem Operation.refused_unchanged {settings : TransactionSettings} {world : World Notes}
    {s : Session Notes} (hs : s.Used settings n world) (op : Operation) (depth : Nat) (e : DatabaseError)
    (he : (exec (op.perform ⟨depth, false⟩) s).1 = .error e)
    (hr : e.Refuses ∨ e.isOfCompilation = true ∧
      (op.isInsert = true → (exec op.compiled s).1 = .error e)) :
    s.Alike (exec (op.perform ⟨depth, false⟩) s).2 := by
  cases hi : op.isInsert
  case false => exact op.spares hi n depth s e hs.connected he (hr.imp_right And.left)
  case true =>
    cases op
    case insert type table values =>
      rcases hr with hr | ⟨-, hc⟩
      case inl => exact spares_insert type table values n depth s e hs.connected he hr
      case inr => exact alike_insert_of_compiled_error type table values _ (hc rfl)
    all_goals nomatch hi

-- A statement runs in a nested transaction, and the one around it is refused as long as that is open.
theorem Operation.unchanged_below_nested :
    let settings : TransactionSettings := .standard .empty .sqlite .standard
    let world : World Notes := .new ⟨"SQLite", fun _ _ => .ok .none⟩ .blank
    let delete : Statement := .raw ⟨"DELETE FROM t", [], false⟩
    let opened := (exec (Handle.nested ⟨0, false⟩) (⟨.new settings 0, world⟩ : Session Notes)).2
    let s := (exec (Step.plain ⟨1, false⟩ (.execute fun draws => (.ok delete, draws))) opened).2
    let e : DatabaseError :=
      .transaction ("cannot " ++ "execute a statement" ++ ": a nested transaction is still open")
    s.Used settings 0 world ∧ (exec ((Operation.execute delete).perform ⟨0, false⟩) s).1 = .error e ∧
      e.Refuses ∧ s.Alike (exec ((Operation.execute delete).perform ⟨0, false⟩) s).2 := by
  intro settings world delete opened s e
  have hs : s.Used settings 0 world := .step 1 _ (.nested 0 .start)
  have he : (exec ((Operation.execute delete).perform ⟨0, false⟩) s).1 = .error e := rfl
  have hr : e.Refuses := .nestedOpen "execute a statement"
  exact ⟨hs, he, hr, refused_unchanged hs (.execute delete) 0 e he (.inl hr)⟩

end PolySql
