import Mathlib.Data.List.Perm.Basic
import PolySql.Proofs.Transaction.Clearing

open scoped List

namespace PolySql

theorem rtake_of_suffix {α : Type} {l l' : List α} (h : l <:+ l') (hn : l.length = n) :
    l'.rtake n = l := by
  rw [List.rtake, ← hn]
  exact (List.suffix_iff_eq_drop.mp h).symm

namespace Crowd

def point (c : Crowd) : Point :=
  ⟨c.session.transaction, c.path, c.opened⟩

-- What is written down agrees with a course of the transaction in all that matters to the effects.
structure Sound (settings : TransactionSettings) (n : Nat) (world : World Notes) (c : Crowd) : Prop where
  shared : c.point.Shared settings n c.inUse c.gone
  log : ∃ log, Comes settings n c.point.transaction.orphaned c.point.scene log ∧
    c.session.world.trace = world.trace ++ log.events ∧ log.essence = c.log.essence

section

variable {settings : TransactionSettings} {n : Nat} {world : World Notes} {c : Crowd} {g : Grip}
  {m : Move} {p' : Point} {s : Session Notes} {inUse' gone' : List Grip} {new : Log} {marks : List Mark}

theorem sound_start : (start settings n world).Sound settings n world where
  shared := Point.shared_start
  log := ⟨[], .reached _ .start, (List.append_nil _).symm, rfl⟩

-- A crowd moves on to the point that the session has come to.
theorem point_advance (hp : c.point.Passes settings n m lineage c.session new marks p' s)
    (hs' : p'.Shared settings n inUse' gone') : (c.advance m lineage s marks).point = p' := by
  have hpath : c.path.rtake (s.transaction.stack.top + 1) = p'.path := by
    refine rtake_of_suffix hp.path ?_
    rw [hs'.path_length, Point.stack, hp.transaction]
  rw [Crowd.advance, Crowd.point]
  dsimp only
  rw [hpath, ← hp.transaction]
  exact Point.mk.injEq .. ▸ ⟨rfl, rfl, hp.opened.symm⟩

namespace Sound

variable (hs : c.Sound settings n world)

include hs

theorem advance (hp : c.point.Passes settings n m lineage c.session new marks p' s)
    (hs' : p'.Shared settings n inUse' gone') :
    Sound settings n world
      { c.advance m lineage s marks with inUse := inUse', gone := gone' } := by
  have hpoint := point_advance hp hs'
  have ht : s.world.trace.drop c.session.world.trace.length = new.events := by
    rw [hp.trace, List.drop_left]
  obtain ⟨log, hc, hw, he⟩ := hs.log
  constructor
  case shared => exact hpoint ▸ hs'
  case log =>
    refine ⟨log ++ new, hpoint ▸ hp.comes log hc, ?_, ?_⟩
    · rw [Log.events_append, ← List.append_assoc, ← hw]
      exact hp.trace
    · rw [Crowd.advance, ht, Log.essence_append, Log.essence_append, he, hp.essence]

omit hs in
theorem release (hi : c.inUse[i]? = some g) : c.inUse ~ g :: c.inUse.eraseIdx i := by
  obtain ⟨hl, rfl⟩ := List.getElem?_eq_some_iff.mp hi
  exact (List.getElem_cons_eraseIdx_perm hl).symm

theorem nested (hi : c.inUse[i]? = some g) : (c.move i g .nested).Sound settings n world := by
  have hg : g ∈ c.inUse := List.mem_of_getElem? hi
  obtain ⟨new, p₁, hp, hs₁⟩ := Tx.Roams.enter (m := .nested) hg c.session c.point hs.shared rfl
  have hs' := hs.advance hp hs₁
  have he := Tx.exec_nested_of_enter (s := c.session) g.handle
  cases hc : (exec g.handle.enter c.session).2.transaction.stack.push g.handle.depth
  case error e =>
    rw [hc] at he
    rw [Crowd.move, he]
    exact hs'
  case ok stack =>
    rw [hc] at he
    rw [← hp.transaction] at hc
    obtain ⟨htop, hcomes, hs₂⟩ := hs₁.pushed hg hc
    have hpath : c.path.rtake stack.top = p₁.path := rtake_of_suffix hp.path htop.symm
    have hpoint : (⟨{ (exec g.handle.enter c.session).2.transaction with stack := stack },
        c.opened :: c.path.rtake stack.top, c.opened + 1⟩ : Point) = p₁.pushed stack := by
      rw [hpath, ← hp.transaction, Point.pushed, hp.opened]
      rfl
    rw [← hpoint, hp.opened] at hs₂
    obtain ⟨log, hlog, hw, hess⟩ := hs'.log
    rw [Crowd.move, he]
    refine ⟨hs₂, log, ?_, hw, hess⟩
    have hc' := hcomes log (point_advance hp hs₁ ▸ hlog)
    rwa [← hpoint] at hc'

theorem exists_passes (hi : c.inUse[i]? = some g) (step : Step) :
    ∃ new marks p' s inUse' gone',
      c.move i g (.step step) =
        { c.advance (.step step) g.lineage s marks with inUse := inUse', gone := gone' } ∧
      c.point.Passes settings n (.step step) g.lineage c.session new marks p' s ∧
      p'.Shared settings n inUse' gone' := by
  have hg : g ∈ c.inUse := List.mem_of_getElem? hi
  have hst : c.session.transaction.settings = settings := hs.shared.sound.settings_eq
  rw [Crowd.move, hst]
  cases he : step.isEnding
  case false =>
    obtain ⟨new, p', hp, hs'⟩ := Tx.Roams.plain hg he c.session c.point hs.shared rfl
    exact ⟨new, _, p', _, c.inUse, c.gone, rfl, hp, hs'⟩
  case true =>
    obtain ⟨x, hx, hplain⟩ := Tx.Closing.of_isEnding settings n (.step step) he
    obtain ⟨new, p', hp, hs'⟩ := hs.shared.endBy (release hi) hx rfl
    have hr : ∀ r : Result Unit, (r.map fun _ => Reply.nothing).toBool = r.toBool :=
      fun r => by cases r <;> rfl
    rw [hplain, Tx.exec_silent]
    dsimp only
    rw [hr]
    exact ⟨new, _, p', _, c.inUse.eraseIdx i, g :: c.gone, rfl, hp, hs'⟩

theorem step (hi : c.inUse[i]? = some g) (step : Step) :
    (c.move i g (.step step)).Sound settings n world := by
  obtain ⟨new, marks, p', s, inUse', gone', he, hp, hs'⟩ := hs.exists_passes hi step
  rw [he]
  exact hs.advance hp hs'

theorem drop (hi : c.inUse[i]? = some g) : (c.move i g .drop).Sound settings n world := by
  obtain ⟨p', hp, hs'⟩ := hs.shared.drop (m := .drop) (release hi) rfl
  exact hs.advance hp hs'

theorem move (hi : c.inUse[i]? = some g) (m : Move) : (c.move i g m).Sound settings n world := by
  cases m
  case nested => exact hs.nested hi
  case step step => exact hs.step hi step
  case drop => exact hs.drop hi
  case note notes => exact ⟨hs.shared, hs.log⟩

theorem settle : (c.perform .settle).Sound settings n world := by
  obtain ⟨new, p', hp, hs'⟩ := hs.shared.settle rfl [0]
  exact hs.advance hp hs'

theorem perform (d : Deed) : (c.perform d).Sound settings n world := by
  cases d
  case settle => exact hs.settle
  case move i m =>
    rw [Crowd.perform]
    cases hi : c.inUse[i]?
    case none => exact hs
    case some g => exact hs.move hi m

theorem run (deeds : List Deed) : (c.run deeds).Sound settings n world := by
  induction deeds generalizing c
  case nil => exact hs
  case cons d rest ih => exact ih (hs.perform d)

theorem exists_trace (hi : c.inUse[i]? = some g) (m : Move) :
    ∃ new marks p' s, c.point.Passes settings n m g.lineage c.session new marks p' s ∧
      (c.move i g m).session.world.trace = s.world.trace := by
  have hg : g ∈ c.inUse := List.mem_of_getElem? hi
  cases m
  case nested =>
    obtain ⟨new, p', hp, -⟩ := Tx.Roams.enter (m := .nested) hg c.session c.point hs.shared rfl
    refine ⟨new, _, p', _, hp, ?_⟩
    rw [Crowd.move, Tx.exec_nested_of_enter]
    cases (exec g.handle.enter c.session).2.transaction.stack.push g.handle.depth <;> rfl
  case step step =>
    obtain ⟨new, marks, p', s, inUse', gone', he, hp, -⟩ := hs.exists_passes hi step
    exact ⟨new, marks, p', s, hp, by rw [he]; rfl⟩
  case drop =>
    obtain ⟨p', hp, -⟩ := hs.shared.drop (m := .drop) (release hi) rfl
    exact ⟨[], [], p', _, hp, rfl⟩
  case note notes => exact ⟨[], [], c.point, c.session, .refl rfl, rfl⟩

theorem quiet (hi : c.inUse[i]? = some g) (hm : m.isStatement = false) :
    Quiet ((c.move i g m).session.world.trace.drop c.session.world.trace.length) := by
  obtain ⟨new, marks, p', s, hp, hw⟩ := hs.exists_trace hi m
  rw [hw, hp.trace, List.drop_left]
  exact hp.quiet hm

-- A statement is sent when the frames are those of the handle, the others having been given up before.
theorem cleared (hi : c.inUse[i]? = some g) (m : Move) :
    let entered := (exec g.handle.enter c.session).2
    let after := (c.move i g m).session
    ¬Quiet (after.world.trace.drop c.session.world.trace.length) →
      entered.transaction.stack.top = g.handle.depth ∧
      c.path.rtake (entered.transaction.stack.top + 1) = g.lineage ∧
      ∃ es es', Quiet es ∧ entered.world.trace = c.session.world.trace ++ es ∧
        after.world.trace = entered.world.trace ++ es' := by
  intro entered after hn
  cases hm : m.isStatement
  case false => exact absurd (hs.quiet hi hm) hn
  case true =>
    have hg : g ∈ c.inUse := List.mem_of_getElem? hi
    obtain ⟨new, p₁, hp, hs₁⟩ := Tx.Roams.enter (m := .drop) hg c.session c.point hs.shared rfl
    cases m
    case nested | drop | note => nomatch hm
    case step step =>
      have ⟨hc, he⟩ := Step.visits_of_isStatement hm
      have hafter : after = (exec (step.plain g.handle) c.session).2 := by
        rw [show after = (c.move i g (.step step)).session from rfl, Crowd.move, he]
        rfl
      rcases Entered.visits (Step.visits hc he) hg hs.shared rfl (.inl (.refl c.session)) with
        ha | ⟨es, hcl⟩
      case inl =>
        rw [hafter, ha.trace, List.drop_length] at hn
        exact absurd (List.forall_mem_nil _) hn
      case inr =>
        rw [← hafter] at hcl
        have htrace : after.world.trace = c.session.world.trace ++ (new.events ++ es) := by
          rw [hcl.trace, hp.trace, List.append_assoc]
        rw [htrace, List.drop_left] at hn
        have ho := hcl.quiet.resolve_left fun hq => hn ((hp.quiet rfl).append hq)
        have ho₁ : p₁.stack.Open g.handle.depth := by
          rw [Point.stack, hp.transaction]
          exact ho
        have hlen : p₁.path.length = entered.transaction.stack.top + 1 := by
          rw [hs₁.path_length, Point.stack, hp.transaction]
        have hpath : c.path.rtake (entered.transaction.stack.top + 1) = p₁.path :=
          rtake_of_suffix hp.path hlen
        exact ⟨ho.innermost.symm, hpath.trans (hs₁.lineage_of_open hg ho₁).symm, new.events, es,
          hp.quiet rfl, hp.trace, hcl.trace⟩

theorem durable :
    let happened := c.session.world.trace.drop world.trace.length
    (Database.replay settings.dialect n happened .blank).durable = c.log.lasting Mark.accepted? := by
  obtain ⟨log, hc, hw, he⟩ := hs.log
  rw [← Log.lasting_congr he, ← hc.durable, hw, List.drop_left]

end Sound

-- While the transaction is active, all its frames are, and each nested one belongs to one handle: one that
-- is in use, or one that is gone and whose frame is to be rolled back. A statement is sent only when the
-- frames are those of the handle it is sent with, the others having been given up before. And the effects
-- that last are those of the statements whose handle has committed with all handles around it.
theorem run_accounted (settings : TransactionSettings) (n : Nat) (world : World Notes) (deeds : List Deed) :
    let c := (start settings n world).run deeds
    let stack := c.session.transaction.stack
    let abandoned := c.session.transaction.abandoned
    let happened := c.session.world.trace.drop world.trace.length
    (∀ g ∈ c.inUse ++ c.gone, g.Valid) ∧
    (stack.status 0 = .active →
      (∀ depth ≤ stack.top, stack.status depth = .active) ∧
      c.path.length = stack.top + 1 ∧
      (c.inUse.filter (·.isNested)).map (·.handle.depth) ++ abandoned ~ List.range' 1 stack.top ∧
      ∃ waiting ⊆ c.gone, Owned c.inUse waiting abandoned c.path) ∧
    (∀ i g m, c.inUse[i]? = some g →
      let entered := (exec g.handle.enter c.session).2
      let after := (c.perform (.move i m)).session
      ¬Quiet (after.world.trace.drop c.session.world.trace.length) →
        entered.transaction.stack.top = g.handle.depth ∧
        c.path.rtake (entered.transaction.stack.top + 1) = g.lineage ∧
        ∃ es es', Quiet es ∧ entered.world.trace = c.session.world.trace ++ es ∧
          after.world.trace = entered.world.trace ++ es') ∧
    (Database.replay settings.dialect n happened .blank).durable = c.log.lasting Mark.accepted? := by
  intro c stack abandoned happened
  have hs : c.Sound settings n world := sound_start.run deeds
  refine ⟨hs.shared.valid, fun h₀ => ?_, fun i g m hi => ?_, hs.durable⟩
  · obtain ⟨waiting, hw, ho⟩ := hs.shared.owned h₀
    have hlen : c.path.length = stack.top + 1 := hs.shared.path_length
    have hp := ho.depths_perm (hs.shared.valid_waiting hw)
    rw [hs.shared.path_length, Nat.add_sub_cancel] at hp
    exact ⟨fun depth hd => hs.shared.active h₀ (Nat.lt_succ_of_le hd |>.trans_eq hlen.symm), hlen, hp,
      waiting, hw, ho⟩
  · have hc := hs.cleared hi m
    rw [perform, hi]
    exact hc

end

end Crowd

end PolySql
