import PolySql.Proofs.Transaction.Course
import PolySql.Proofs.Transaction.Visits

namespace PolySql

namespace Point

variable {settings : TransactionSettings} {n : Nat} {m : Move} {p : Point} {stack : Stack}

-- Frames that only differ in their hooks.
theorem Ready.leads_of_register (h : p.Ready n k outer f below) (hs : p.Sound settings n)
    (ht : Shift settings n m p.scene marks
      { p.scene with live := (k, f.register cs rs) :: outer.zip below }) :
    Leads settings n m p marks (p.withInward (f.register cs rs :: below)) := by
  have ha : ∀ g ∈ f.register cs rs :: below, g.status = .active :=
    List.forall_mem_cons.mpr (List.forall_mem_cons.mp h.active)
  have hz : (p.stack.withInward (f.register cs rs :: below)).status 0 = p.stack.status 0 := by
    rw [h.status_zero_eq, status_zero_of_forall (by simp) (by simpa using ha)]
  have hs' := hs.withInward (List.cons_ne_nil _ _) (by simp [h.frames])
    (.inl (List.forall_mem_cons.mp ha).2) hz
  refine h.leads hs' ?_ ht
  rw [scene_withInward hz, h.path, live_of_forall ha]
  rfl

namespace Sound

variable (hs : p.Sound settings n) (hp : p.path = k :: outer)

include hs hp

theorem leads_of_onCommit (hc : p.stack.onCommit outer.length hook = .ok stack) :
    Leads settings n m p [.onCommit hook]
      (p.withTransaction { p.transaction with stack := stack }) := by
  have ho := Stack.open_of_onCommit hc
  have ⟨f, below, h⟩ := hs.ready hp ho
  rw [← h.depth, Stack.onCommit_length h.frames hook (h.depth ▸ ho)] at hc
  cases hc
  exact h.leads_of_register hs (.onCommit hook h.live_eq)

theorem leads_of_onRollback (hc : p.stack.onRollback outer.length hook = .ok stack) :
    Leads settings n m p [.onRollback hook]
      (p.withTransaction { p.transaction with stack := stack }) := by
  have ho := Stack.open_of_onRollback hc
  have ⟨f, below, h⟩ := hs.ready hp ho
  rw [← h.depth, Stack.onRollback_length h.frames hook (h.depth ▸ ho)] at hc
  cases hc
  exact h.leads_of_register hs (.onRollback hook h.live_eq)

theorem exists_live (hc : p.stack.Settable outer.length) :
    ∃ f below, p.Ready n k outer f below ∧ p.scene.live = [(k, f)] := by
  have ⟨f, below, h⟩ := hs.ready hp hc.is_open
  have ho : outer = [] := List.length_eq_zero_iff.mp hc.outermost
  exact ⟨f, below, h, by rw [h.live_eq, ho, List.zip_nil_left]⟩

theorem leads_of_setIsolation (hc : p.stack.setIsolation outer.length level = .ok stack) :
    Leads settings n m p [.isolation level]
      (p.withTransaction { p.transaction with stack := stack }) := by
  have ⟨hset, he⟩ := Stack.of_setIsolation hc
  subst he
  have ⟨f, below, h, hl⟩ := hs.exists_live hp hset
  refine h.leads ?_ rfl (.isolation level hl hset.not_begun)
  exact { hs with }

theorem leads_of_setReadOnly (hc : p.stack.setReadOnly outer.length b = .ok stack) :
    Leads settings n m p [.readOnly b]
      (p.withTransaction { p.transaction with stack := stack }) := by
  have ⟨hset, he⟩ := Stack.of_setReadOnly hc
  subst he
  have ⟨f, below, h, hl⟩ := hs.exists_live hp hset
  refine h.leads ?_ rfl (.readOnly b hl hset.not_begun)
  exact { hs with }

theorem leads_of_change {step : Step} (hf : step.change? = some f)
    (hc : f outer.length p.stack = .ok stack) :
    Leads settings n m p (step.marks settings.nesting outer.length true)
      (p.withTransaction { p.transaction with stack := stack }) := by
  cases step
  case setIsolation =>
    cases hf
    exact hs.leads_of_setIsolation hp hc
  case setReadOnly =>
    cases hf
    exact hs.leads_of_setReadOnly hp hc
  case onCommit =>
    cases hf
    exact hs.leads_of_onCommit hp hc
  case onRollback =>
    cases hf
    exact hs.leads_of_onRollback hp hc
  all_goals nomatch hf

end Sound

end Point

-- Whenever the computation runs on the innermost handle, it leaves events and the marks that go with its
-- success.
def Tx.Leaves {ρ α : Type} (settings : TransactionSettings) (n : Nat) (m : Move) (k : Nat)
    (outer : List Nat) (x : Tx ρ α) (marks : Bool → List Mark) : Prop :=
  ∀ (s : Session ρ) (p : Point), p.Sound settings n → p.path = k :: outer →
    p.transaction = s.transaction →
    ∃ es, (exec x s).2.world.trace = s.world.trace ++ es ∧
      p.Leads settings n m (es.map .event ++ marks (exec x s).1.toBool)
        (p.withTransaction (exec x s).2.transaction)

-- The computation leaves nothing but events.
abbrev Tx.Leaves.Nothing : Bool → List Mark :=
  fun _ => []

namespace Tx.Leaves

section

variable {ρ α β : Type} {settings : TransactionSettings} {n : Nat} {m : Move} {k : Nat}
  {outer : List Nat} {x : Tx ρ α} {marks : Bool → List Mark}

-- What neither the transaction nor the trace shows.
theorem of_hidden (h : ∀ s, (exec x s).2.transaction = s.transaction ∧
    (exec x s).2.world.trace = s.world.trace) : Leaves settings n m k outer x Nothing := by
  intro s p hs hp ht
  have ⟨ht', hw⟩ := h s
  refine ⟨[], by simp [hw], ?_⟩
  rw [ht', ← ht]
  exact .refl hs

theorem bind {f : α → Tx ρ β} (hx : Leaves settings n m k outer x Nothing)
    (hf : ∀ a, Leaves settings n m k outer (f a) marks) (hm : marks false = []) :
    Leaves settings n m k outer (x >>= f) marks := by
  intro s p hs hp ht
  obtain ⟨es, hw, hl⟩ := hx s p hs hp ht
  rw [Nothing, List.append_nil] at hl
  rcases he : exec x s with ⟨_ | a, s'⟩
  case error e =>
    rw [exec_bind_of_error he]
    rw [he] at hw hl
    exact ⟨es, hw, by simpa [Except.toBool, hm] using hl⟩
  case ok =>
    rw [exec_bind_of_ok he]
    rw [he] at hw hl
    obtain ⟨es', hw', hl'⟩ := hf a s' (p.withTransaction s'.transaction) hl.sound hp rfl
    refine ⟨es ++ es', by rw [hw', hw, List.append_assoc], ?_⟩
    rw [List.map_append, List.append_assoc]
    exact hl.trans hl' rfl

theorem bindNothing {f : α → Tx ρ β} (hx : Leaves settings n m k outer x Nothing)
    (hf : ∀ a, Leaves settings n m k outer (f a) Nothing) :
    Leaves settings n m k outer (x >>= f) Nothing :=
  hx.bind hf rfl

theorem map (f : α → β) (hx : Leaves settings n m k outer x marks) :
    Leaves settings n m k outer (f <$> x) marks := by
  intro s p hs hp ht
  have ⟨es, hw, hl⟩ := hx s p hs hp ht
  rw [exec_map]
  refine ⟨es, hw, ?_⟩
  cases he : (exec x s).1 <;> simpa [he, Except.toBool, Except.map] using hl

theorem change {f : Stack → Result Stack}
    (h : ∀ p : Point, p.Sound settings n → p.path = k :: outer → ∀ stack, f p.stack = .ok stack →
      p.Leads settings n m (marks true) (p.withTransaction { p.transaction with stack := stack }))
    (hm : marks false = []) : Leaves settings n m k outer (Tx.change f : Tx ρ Unit) marks := by
  intro s p hs hp ht
  refine ⟨[], ?_⟩
  rw [exec_change, ← ht]
  cases hf : f p.stack
  case error =>
    refine ⟨by simp, ?_⟩
    simpa [Except.toBool, hm] using ht ▸ Point.Leads.refl hs
  case ok stack =>
    refine ⟨by simp, ?_⟩
    simpa [Except.toBool, ht] using h p hs hp stack hf

theorem enter : Leaves settings n m k outer (Handle.enter ⟨depth, false⟩ : Tx ρ Unit) Nothing :=
  of_hidden fun _ => ⟨rfl, rfl⟩

theorem runTask (hm : m.isStatement = true) (operation sql : String) (ht : t.isControl = false) :
    Leaves settings n m k outer (Tx.runTask outer.length operation sql t : Tx ρ Answer) Nothing := by
  intro s p hs hp hpt
  have hc := hs.connection_of_open hp
  rw [Point.stack, hpt] at hc
  have ⟨es, r, s', he, hw, hr⟩ := exec_runTask hc operation sql ht
  rw [← hpt] at hr
  refine ⟨es, by rw [he, hw]; rfl, ?_⟩
  rw [he, Nothing, List.append_nil]
  exact hs.leads_of_running hp hm hr

theorem rollback : Leaves settings n m k outer (Tx.rollback outer.length : Tx ρ Unit)
    fun accepted => Mark.rolledBack.upon (settings.nesting.everything outer.length && accepted) := by
  intro s p hs hp hpt
  have hc := hs.connection_of_open hp
  rw [Point.stack, hpt] at hc
  have ⟨es, r, s', he, hw, hr⟩ := exec_rollback hc
  rw [← hpt] at hr
  refine ⟨es, by rw [he, hw]; rfl, ?_⟩
  rw [he]
  exact hs.leads_of_rollingBack hp hr

theorem commit : Leaves settings n m k outer (Tx.commit outer.length : Tx ρ Unit)
    Mark.committed.upon := by
  intro s p hs hp hpt
  have hc := hs.connection_of_open hp
  rw [Point.stack, hpt] at hc
  have ⟨es, r, s', he, hw, hr⟩ := exec_commit hc
  rw [← hpt] at hr
  refine ⟨es, by rw [he, hw]; rfl, ?_⟩
  rw [he]
  exact hs.leads_of_committing hp hr

end

section

variable {settings : TransactionSettings} {n : Nat} {m : Move} {k : Nat} {outer : List Nat}

abbrev handle (outer : List Nat) : Handle :=
  ⟨outer.length, false⟩

theorem silent {x : Step.Run Unit} (h : Leaves settings n m k outer x marks) :
    Leaves settings n m k outer (Step.silent x) marks := by
  have he : Step.silent x = (fun _ => Reply.nothing) <$> x := by
    rw [map_eq_pure_bind]
    rfl
  exact he ▸ h.map _

theorem endBy {step : Nat → Step.Run Unit}
    (h : Leaves settings n m k outer (step outer.length) marks) :
    Leaves settings n m k outer ((handle outer).endBy step) marks := by
  intro s p hs hp ht
  have ⟨es, hw, hl⟩ := h s p hs hp ht
  exact ⟨es, hw, hl⟩

theorem visits {α : Type} {step : Step} {x : Handle → Step.Run α} (h : Visits step x) :
    Leaves settings n (.step step) k outer (x (handle outer)) Nothing := by
  induction h
  case hidden f hf => exact of_hidden fun s => ⟨(hf _ s).transaction, (hf _ s).trace⟩
  case enter => exact enter
  case runTask operation sql hs ht =>
    have hm : (Move.step step).isStatement = true := hs
    exact enter.bindNothing fun _ => runTask hm operation sql ht
  case bind hx hf => exact hx.bindNothing hf

-- A step leaves the marks of its events and of itself.
theorem plain (step : Step) : Leaves settings n (.step step) k outer
    (Step.plain (handle outer) step) (step.marks settings.nesting outer.length) := by
  rcases hf : step.change? with _ | f
  case some =>
    rw [Step.plain_of_change hf]
    refine silent (enter.bind (fun _ => ?_) (Step.marks_of_change hf))
    exact change (fun p hs hp _ hc => hs.leads_of_change hp hf hc) (Step.marks_of_change hf)
  case none =>
    cases he : step.isEnding
    case false =>
      rw [Step.marks_of_visits hf he]
      exact visits (Step.visits hf he)
    case true =>
      cases step
      case commit => exact silent (endBy commit)
      case rollback => exact silent (endBy rollback)
      all_goals nomatch he

end

end Tx.Leaves

end PolySql
