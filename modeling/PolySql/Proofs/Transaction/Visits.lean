import PolySql.Proofs.Transaction.Cleanup
import PolySql.Proofs.Transaction.Scene
import PolySql.Scenario.Run

namespace PolySql

-- Sessions that are alike differ in nothing that a transaction depends on.
structure Session.Alike {ρ : Type} (s s' : Session ρ) : Prop where
  transaction : s'.transaction = s.transaction
  trace : s'.world.trace = s.world.trace
  server : s'.world.server = s.world.server

namespace Session.Alike

variable {ρ : Type} {s s' s'' : Session ρ}

theorem refl (s : Session ρ) : s.Alike s :=
  ⟨rfl, rfl, rfl⟩

theorem trans (h : s.Alike s') (h' : s'.Alike s'') : s.Alike s'' :=
  ⟨h'.transaction.trans h.transaction, h'.trace.trans h.trace, h'.server.trans h.server⟩

end Session.Alike

-- The computation does nothing to the transaction.
def Tx.Hidden {ρ α : Type} (x : Tx ρ α) : Prop :=
  ∀ s : Session ρ, s.Alike (exec x s).2

theorem Tx.Hidden.of_forall {ρ α : Type} {x : Tx ρ α} (h : ∀ s, (exec x s).2 = s) : Hidden x :=
  fun s => by
    rw [h]
    exact .refl s

-- A use of a handle comes down to visits: it enters the transaction, and may run a statement then. What
-- it does in between is hidden from the transaction.
inductive Tx.Visits (step : Step) : {α : Type} → (Handle → Step.Run α) → Prop
  | hidden {α : Type} (f : Nat → Step.Run α) :
    (∀ depth, Hidden (f depth)) →
    Visits step fun h => f h.depth
  | enter : Visits step Handle.enter
  | runTask (operation sql : String) :
    step.isStatement = true →
    Task.isControl t = false →
    Visits step fun h => h.runTask operation sql t
  | bind {α β : Type} {x : Handle → Step.Run α} {f : α → Handle → Step.Run β} :
    Visits step x →
    (∀ a, Visits step (f a)) →
    Visits step fun h => x h >>= fun a => f a h

namespace Tx.Visits

variable {step : Step} {α : Type}

theorem of_hidden {x : Step.Run α} (h : Hidden x) : Visits step fun _ => x :=
  hidden (fun _ => x) fun _ => h

theorem pure (a : α) : Visits step fun _ => Pure.pure a :=
  of_hidden (.of_forall fun _ => rfl)

theorem throw (e : DatabaseError) : Visits step fun _ => (MonadExcept.throw e : Step.Run α) :=
  of_hidden (.of_forall fun _ => rfl)

theorem ofResult (r : Result α) : Visits step fun _ => Tx.ofResult r :=
  of_hidden (.of_forall fun _ => rfl)

theorem settings : Visits step fun _ => Tx.settings :=
  of_hidden (.of_forall fun _ => rfl)

theorem context : Visits step fun _ => Tx.context :=
  of_hidden (.of_forall fun _ => rfl)

theorem compile (s : Statement) : Visits step fun _ => Handle.compile s :=
  context.bind fun _ => ofResult _

theorem draft (f : Draft α) : Visits step fun _ => Tx.draft f :=
  of_hidden fun (_ : Session Notes) => ⟨rfl, rfl, rfl⟩

theorem askId (table : TableId) : Visits step fun _ => Tx.askId table :=
  of_hidden fun (_ : Session Notes) => ⟨rfl, rfl, rfl⟩

theorem planInsert (table : TableId) (values : List (ColumnId × Column)) :
    Visits step fun _ => Tx.planInsert table values := by
  refine context.bind fun cx => (ofResult _).bind fun key => ?_
  dsimp only
  cases values.any (·.1 == key)
  case true => exact (pure none).bind fun _ => (draft _).bind fun _ => ofResult _
  case false => exact (askId table).bind fun _ => (draft _).bind fun _ => ofResult _

section

variable (hs : step.isStatement = true)

include hs

theorem runQuery (c : Command) : Visits step fun h => h.runQuery c :=
  .runTask _ _ hs rfl

theorem runExecute (c : Command) : Visits step fun h => h.runExecute c :=
  .bind (.runTask _ _ hs rfl) fun _ => pure _

theorem execute (s : Statement) : Visits step fun h => h.execute s := by
  refine (compile s).bind fun command => ?_
  cases s.returnsRows
  case true => exact (runQuery hs command).bind fun _ => pure _
  case false => exact runExecute hs command

theorem query (s : Statement) : Visits step fun h => h.query s :=
  (compile s).bind fun _ => context.bind fun _ => (runQuery hs _).bind fun _ => pure _

theorem queryOne (s : Statement) : Visits step fun h => h.queryOne s := by
  refine (query hs s).bind fun rows => ?_
  cases rows.next?
  case none => exact pure _
  case some => exact (ofResult _).bind fun _ => pure _

theorem insertThenAsk (c : Command) (query : String) : Visits step fun h => h.insertThenAsk c query := by
  simp only [Handle.insertThenAsk_eq]
  exact (runExecute hs c).bind fun _ => runQuery hs _

theorem insertedKey (p : InsertPlan) (c : Command) : Visits step fun h => h.insertedKey p c := by
  unfold Handle.insertedKey
  cases p.source
  case given => exact (runExecute hs c).bind fun _ => pure _
  case returned => exact (runQuery hs c).bind fun _ => ofResult _
  case asked => exact (insertThenAsk hs c _).bind fun _ => ofResult _

theorem insert (type : HostType) (table : TableId) (values : List (ColumnId × Column)) :
    Visits step fun h => h.insert type table values :=
  (planInsert table values).bind fun _ => (compile _).bind fun _ =>
    (insertedKey hs _ _).bind fun _ => context.bind fun _ => ofResult _

theorem executeAll (cs : List Command) : Visits step fun h => h.executeAll cs := by
  induction cs
  case nil => exact pure 0
  case cons c rest ih => exact (runExecute hs c).bind fun _ => ih.bind fun _ => pure _

theorem insertBatch (b : BatchInsert) : Visits step fun h => h.insertBatch b :=
  context.bind fun _ => (ofResult _).bind fun _ => executeAll hs _

theorem updateBatch (b : BatchUpdate) : Visits step fun h => h.updateBatch b :=
  context.bind fun _ => (ofResult _).bind fun _ => (Visits.runTask _ _ hs rfl).bind fun _ => pure _

theorem tableNames : Visits step fun h => h.tableNames :=
  context.bind fun _ => (runQuery hs _).bind fun _ => ofResult _

theorem tableExists (name : String) : Visits step fun h => h.tableExists name :=
  (tableNames hs).bind fun _ => pure _

theorem tableSpec (name : String) : Visits step fun h => h.tableSpec name :=
  context.bind fun _ => (runQuery hs _).bind fun _ => (runQuery hs _).bind fun _ =>
    (runQuery hs _).bind fun _ => (runQuery hs _).bind fun _ => ofResult _

theorem tableSpecs (names : List String) : Visits step fun h => h.tableSpecs names := by
  induction names
  case nil => exact pure []
  case cons name rest ih => exact (tableSpec hs name).bind fun _ => ih.bind fun _ => pure _

theorem introspect : Visits step fun h => h.introspect :=
  (tableNames hs).bind fun _ => (tableSpecs hs _).bind fun _ => pure _

end

theorem status : Visits step fun h => h.status :=
  enter.bind fun _ => hidden (fun depth => do return (← Tx.stack).status depth)
    fun _ => .of_forall fun _ => rfl

theorem handleSettings : Visits step fun h => h.settings :=
  enter.bind fun _ => of_hidden (.of_forall fun _ => rfl)

theorem info : Visits step Step.infoReply :=
  status.bind fun status => handleSettings.bind fun settings =>
    hidden (fun depth => Pure.pure (Reply.info depth status settings))
      fun _ => .of_forall fun _ => rfl

theorem keep (name : Option String) : Visits step fun h => Step.keepReply h name :=
  handleSettings.bind fun _ => of_hidden fun (_ : Session Notes) => ⟨rfl, rfl, rfl⟩

end Tx.Visits

-- A step that changes the stack and nothing else.
def Step.change? : Step → Option (Nat → Stack → Result Stack)
  | setIsolation level => some fun depth s => s.setIsolation depth level
  | setReadOnly b => some fun depth s => s.setReadOnly depth b
  | onCommit hook => some fun depth s => s.onCommit depth hook
  | onRollback hook => some fun depth s => s.onRollback depth hook
  | _ => none

def Step.isEnding : Step → Bool
  | commit | rollback => true
  | _ => false

theorem Tx.exec_silent {s : Session Notes} (x : Step.Run Unit) :
    exec (Step.silent x) s = ((exec x s).1.map fun _ => .nothing, (exec x s).2) := by
  rw [Step.silent, exec_bind]
  rcases exec x s with ⟨e | _, s'⟩ <;> rfl

section

variable {step : Step}

theorem Step.plain_of_change (hf : step.change? = some f) (h : Handle) :
    step.plain h = silent (do h.enter; Tx.change (f h.depth)) := by
  cases step
  case setIsolation | setReadOnly | onCommit | onRollback =>
    cases hf
    rfl
  all_goals nomatch hf

theorem Step.marks_of_change (hf : step.change? = some f) : step.marks nesting depth false = [] := by
  cases step
  case setIsolation | setReadOnly | onCommit | onRollback => rfl
  all_goals nomatch hf

-- Only the frame that may act changes the stack by itself: it takes up hooks, or a setting is made.
theorem Stack.of_change {s s' : Stack} (hf : step.change? = some f) (hc : f depth s = .ok s') :
    s.Open depth ∧ ∃ g below onCommit onRollback isolation readOnly,
      s.inward = g :: below ∧ depth = below.length ∧
        s' = withInward { s with isolation := isolation, readOnly := readOnly }
          (g.register onCommit onRollback :: below) := by
  cases step
  case setIsolation level =>
    cases hf
    obtain ⟨⟨ho, -, -⟩, rfl⟩ := of_setIsolation hc
    obtain ⟨g, below, hi, hd⟩ := exists_frames ho
    exact ⟨ho, g, below, [], [], some level, s.readOnly, hi, hd, by simp [withInward, frames_eq hi, Frame.register]⟩
  case setReadOnly b =>
    cases hf
    obtain ⟨⟨ho, -, -⟩, rfl⟩ := of_setReadOnly hc
    obtain ⟨g, below, hi, hd⟩ := exists_frames ho
    exact ⟨ho, g, below, [], [], s.isolation, b, hi, hd, by simp [withInward, frames_eq hi, Frame.register]⟩
  case onCommit hook =>
    cases hf
    have ho := open_of_onCommit hc
    obtain ⟨g, below, hi, rfl⟩ := exists_frames ho
    cases (onCommit_length hi hook ho).symm.trans hc
    exact ⟨ho, g, below, [hook], [], s.isolation, s.readOnly, hi, rfl, rfl⟩
  case onRollback hook =>
    cases hf
    have ho := open_of_onRollback hc
    obtain ⟨g, below, hi, rfl⟩ := exists_frames ho
    cases (onRollback_length hi hook ho).symm.trans hc
    exact ⟨ho, g, below, [], [hook], s.isolation, s.readOnly, hi, rfl, rfl⟩
  all_goals cases hf

-- A step that only visits the transaction leaves nothing but events.
theorem Step.marks_of_visits (hc : step.change? = none) (he : step.isEnding = false) :
    step.marks nesting depth = fun _ => [] := by
  cases step
  case commit | rollback => nomatch he
  case setIsolation | setReadOnly | onCommit | onRollback => nomatch hc
  all_goals rfl

-- A statement is such a step.
theorem Step.visits_of_isStatement (h : step.isStatement = true) :
    step.change? = none ∧ step.isEnding = false := by
  cases step
  case setIsolation | setReadOnly | onCommit | onRollback | commit | rollback => nomatch h
  all_goals exact ⟨rfl, rfl⟩

theorem Step.visits (hc : step.change? = none) (he : step.isEnding = false) :
    Tx.Visits step fun h => step.plain h := by
  cases step
  case execute s =>
    exact (Tx.Visits.draft s).bind fun _ => (Tx.Visits.execute rfl _).bind fun _ => .pure _
  case query s most wanted =>
    exact (Tx.Visits.draft s).bind fun _ => (Tx.Visits.query rfl _).bind fun _ => .pure _
  case queryOne s wanted =>
    exact (Tx.Visits.draft s).bind fun _ => (Tx.Visits.queryOne rfl _).bind fun _ => .pure _
  case insert type table values =>
    exact (Tx.Visits.draft values).bind fun _ => (Tx.Visits.insert rfl _ _ _).bind fun _ =>
      Tx.Visits.settings.bind fun _ => (Tx.Visits.ofResult _).bind fun _ => .pure _
  case insertBatch b =>
    exact (Tx.Visits.draft b).bind fun _ => (Tx.Visits.insertBatch rfl _).bind fun _ => .pure _
  case updateBatch b => exact (Tx.Visits.updateBatch rfl b).bind fun _ => .pure _
  case introspect => exact (Tx.Visits.introspect rfl).bind fun _ => .pure _
  case tableNames => exact (Tx.Visits.tableNames rfl).bind fun _ => .pure _
  case tableExists name => exact (Tx.Visits.tableExists rfl name).bind fun _ => .pure _
  case supports c =>
    exact (Tx.Visits.context.bind fun _ => .pure _).bind fun _ => .pure _
  case info => exact .info
  case keep name => exact .keep name
  case fail e => exact .throw e
  case nested | scope | caught => exact .pure _
  case commit | rollback => nomatch he
  case setIsolation | setReadOnly | onCommit | onRollback => nomatch hc

end

end PolySql
