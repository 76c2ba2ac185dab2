import PolySql.Proofs.Transaction.Releasing

namespace PolySql

namespace Session.Alike

variable {ρ : Type} {s s' : Session ρ}

theorem eq_withAside (h : s.Alike s') : s' = s.withAside s'.aside := by
  obtain ⟨t, world⟩ := s
  obtain ⟨t', world'⟩ := s'
  obtain ⟨server, trace, _, _, _, _⟩ := world
  obtain ⟨server', trace', _, _, _, _⟩ := world'
  obtain ⟨ht, hw, hs⟩ := h
  cases ht
  cases hw
  cases hs
  rfl

end Session.Alike

namespace Tx

variable {ρ α : Type} {s s' : Session ρ}

-- Sessions that are alike stay so.
theorem Ignores.alike {x : Tx ρ α} (hx : Ignores x) (h : s.Alike s') :
    (exec x s).2.Alike (exec x s').2 := by
  have hab : s'.transaction.abandoned = (exec x s).2.transaction.abandoned := by
    rw [h.transaction, hx.abandoned_eq]
  have hor : s'.transaction.orphaned = (exec x s).2.transaction.orphaned := by
    rw [h.transaction, hx.orphaned_eq]
  rw [h.eq_withAside, hx]
  refine ⟨?_, rfl, rfl⟩
  simp only [Session.withAside, Session.aside, hab, hor]

end Tx

namespace Tx

variable {ρ : Type} {s s' : Session ρ}

theorem alike_discardAbandoned (h : s.Alike s') (fuel : Nat) :
    (exec (Handle.discardAbandoned fuel) s).2.Alike (exec (Handle.discardAbandoned fuel) s').2 := by
  induction fuel generalizing s s'
  case zero => exact h
  case succ fuel ih =>
    have ht := h.transaction
    by_cases ha : s.transaction.stack.top ∈ s.transaction.abandoned
    case pos =>
      have ha' : s'.transaction.stack.top ∈ s'.transaction.abandoned := by rwa [ht]
      rw [exec_discardAbandoned_of_mem ha, exec_discardAbandoned_of_mem ha', ht]
      exact ih ((Ignores.discard _).alike ⟨rfl, h.trace, h.server⟩)
    case neg =>
      have ha' : s'.transaction.stack.top ∉ s'.transaction.abandoned := by rwa [ht]
      rw [exec_discardAbandoned_of_tidy ha, exec_discardAbandoned_of_tidy ha']
      exact h

theorem alike_enter (h : s.Alike s') (handle : Handle) :
    (exec handle.enter s).2.Alike (exec handle.enter s').2 := by
  cases hs : handle.shared
  case false =>
    rw [Handle.enter, if_neg (by simp [hs])]
    exact h
  case true =>
    rw [exec_enter_shared hs, exec_enter_shared hs, h.transaction]
    exact alike_discardAbandoned h _

end Tx

theorem Running.status_of_active (h : Running n depth t es t')
    (ha : t'.stack.status d = .active) : t.stack.status d = .active := by
  cases h
  case refused => exact ha
  case ran =>
    simp only [Stack.status, Stack.prepared, List.getElem?_map] at ha ⊢
    cases hf : t.stack.frames[d]?
    case none => simp [hf] at ha
    case some f => simpa [hf, Frame.established] using ha
  case unprepared hab =>
    cases hab
    exact absurd ha (Stack.status_rolledBackFrom_ne_active (Nat.zero_le d))

-- A use of the handle that began with the first session has entered and has left the given events since:
-- no statements, unless the handle's frame was the innermost one and active.
structure Cleared (h : Handle) (s s' : Session Notes) (es : List Event) : Prop where
  trace : s'.world.trace = (exec h.enter s).2.world.trace ++ es
  top : s'.transaction.stack.top = (exec h.enter s).2.transaction.stack.top
  tidy : s'.Tidy
  active : s'.transaction.stack.status h.depth = .active →
    (exec h.enter s).2.transaction.stack.status h.depth = .active
  quiet : Quiet es ∨ (exec h.enter s).2.transaction.stack.Open h.depth

-- Unless it has entered it has done nothing.
def Entered (h : Handle) (s s' : Session Notes) : Prop :=
  s.Alike s' ∨ ∃ es, Cleared h s s' es

section

variable {settings : TransactionSettings} {n : Nat} {inUse gone : List Grip} {g : Grip} {h : Handle}
  {s s' : Session Notes} {p : Point}

theorem Entered.hidden {α : Type} {x : Step.Run α} (hx : Tx.Hidden x) (he : Entered h s s') :
    Entered h s (exec x s').2 := by
  have ha := hx s'
  rcases he with hb | ⟨es, hc⟩
  case inl => exact .inl (hb.trans ha)
  case inr =>
    refine .inr ⟨es, ha.trace.trans hc.trace, ?_, ?_, ?_, hc.quiet⟩
    · rw [ha.transaction]
      exact hc.top
    · exact hc.tidy.of_transaction_eq ha.transaction
    · rw [ha.transaction]
      exact hc.active

theorem Entered.enter (hs : h.shared = true) (he : Entered h s s') :
    ∃ es, Cleared h s (exec h.enter s').2 es := by
  rcases he with hb | ⟨es, hc⟩
  case inl =>
    have ha := Tx.alike_enter hb h
    refine ⟨[], ha.trace.trans (List.append_nil _).symm, ?_, ?_, ?_, .inl (List.forall_mem_nil _)⟩
    · rw [ha.transaction]
    · exact Tx.tidy_enter hs
    · rw [ha.transaction]
      exact id
  case inr =>
    rw [Tx.exec_enter_of_tidy fun _ => hc.tidy]
    exact ⟨es, hc⟩

theorem Cleared.runTask (hc : Cleared h s s' es)
    (hn : s'.transaction.stack.Open h.depth → s'.transaction.connection = some n)
    (operation sql : String) (ht : t.isControl = false) :
    ∃ es', Cleared h s (exec (Tx.runTask h.depth operation sql t) s').2 es' := by
  by_cases ho : s'.transaction.stack.Open h.depth
  case neg =>
    have ⟨e, he⟩ := Tx.exec_runTask_of_not_open ho operation sql t
    rw [he]
    exact ⟨es, hc⟩
  case pos =>
    have htop := Tx.top_exec_runTask (s := s') h.depth operation sql t
    have htidy := hc.tidy.runTask h.depth operation sql t
    obtain ⟨es', r, s'', he, hw, hr⟩ := Tx.exec_runTask hn operation sql ht
    rw [he] at htop htidy ⊢
    refine ⟨es ++ es', ?_, htop.trans hc.top, htidy, fun ha => hc.active (hr.status_of_active ha),
      .inr ⟨hc.active ho.active, ho.innermost.trans hc.top⟩⟩
    rw [hw, ← List.append_assoc, ← hc.trace]
    rfl

-- However the use goes on, it enters before it sends a statement.
theorem Entered.visits {α : Type} {step : Step} {x : Handle → Step.Run α} (hx : Tx.Visits step x)
    (hg : g ∈ inUse) (hs : p.Shared settings n inUse gone) (ht : p.transaction = s'.transaction)
    (he : Entered g.handle s s') : Entered g.handle s (exec (x g.handle) s').2 := by
  have hsh := (hs.valid_of_mem hg).shared
  induction hx generalizing p s'
  case hidden f hf => exact he.hidden (hf _)
  case enter => exact .inr (he.enter hsh)
  case runTask t operation sql _ hc =>
    obtain ⟨es, hcl⟩ := he.enter hsh
    obtain ⟨new, p₁, hp, hs₁⟩ := Tx.Roams.enter (m := .step step) hg s' p hs ht
    have hn : p₁.stack.Open g.handle.depth → p₁.transaction.connection = some n :=
      hs₁.connection_of_open
    rw [Point.stack, hp.transaction] at hn
    dsimp only [Handle.runTask]
    rw [exec_bind_of_ok (Tx.exec_enter _)]
    exact .inr (hcl.runTask hn operation sql hc)
  case bind x f hx hf ihx ihf =>
    have he' := ihx hs ht he
    obtain ⟨new, p₁, hp, hs₁⟩ := Tx.Roams.visits hg hx s' p hs ht
    rcases hr : exec (x g.handle) s' with ⟨_ | a, s₁⟩
    case error =>
      rw [hr] at he'
      rwa [exec_bind_of_error hr]
    case ok =>
      rw [hr] at he' hp
      rw [exec_bind_of_ok hr]
      exact ihf a hs₁ hp.transaction he'

end

end PolySql
