import PolySql.Proofs.Transaction.Roaming

open scoped List

namespace PolySql

namespace Tx

variable {ρ : Type} {s : Session ρ} {depth : Nat} {h : Handle}

theorem exec_drop_shared (hs : h.shared = true) : exec h.drop s = (.ok (),
    if 0 < h.depth then
      { s with transaction := { s.transaction with
        abandoned := s.transaction.abandoned ++ [h.depth] } }
    else if s.transaction.stack.status 0 = .active then
      { s with transaction := { s.transaction with orphaned := true } }
    else s) := by
  by_cases hd : 0 < h.depth
  case pos => simp [Handle.drop, hs, hd, Handle.abandon, exec_bind, exec_setAbandoned]
  case neg =>
    by_cases ha : s.transaction.stack.status 0 = .active <;>
      simp [Handle.drop, hs, hd, exec_bind, ha]

theorem exec_retire_of_active (ha : s.transaction.stack.status h.depth = .active) :
    exec h.retire s = exec h.drop s := by
  simp [Handle.retire, exec_bind, ha]

theorem exec_retire_of_not_active (ha : s.transaction.stack.status h.depth ≠ .active) :
    exec h.retire s = (.ok (), s.withStack (s.transaction.stack.pop h.depth)) := by
  simp [Handle.retire, exec_bind, ha]

theorem exec_retire_fst (hs : h.shared = true) : (exec h.retire s).1 = .ok () := by
  by_cases ha : s.transaction.stack.status h.depth = .active
  case pos => rw [exec_retire_of_active ha, exec_drop_shared hs]
  case neg => rw [exec_retire_of_not_active ha]

theorem exec_endBy (hs : h.shared = true) (step : Nat → Tx ρ Unit) :
    exec (h.endBy step) s = ((exec (step h.depth) (exec h.enter s).2).1,
      (exec h.retire (exec (step h.depth) (exec h.enter s).2).2).2) := by
  rw [Handle.endBy, exec_bind_of_ok (exec_enter h), exec_bind, exec_outcome]
  dsimp only
  rw [if_pos hs, exec_bind_of_ok (Prod.ext (exec_retire_fst hs) rfl), exec_ofResult]

theorem exec_nested_of_enter (h : Handle) :
    exec h.nested s = match (exec h.enter s).2.transaction.stack.push h.depth with
      | .ok stack => (.ok { h with depth := stack.top }, (exec h.enter s).2.withStack stack)
      | .error e => (.error e, (exec h.enter s).2) := by
  rw [Handle.nested, exec_bind_of_ok (exec_enter h), exec_bind, exec_change]
  cases (exec h.enter s).2.transaction.stack.push h.depth <;> rfl

-- A step that the innermost frame ends with, whether it succeeds or not, and that is refused to others.
structure Closing (settings : TransactionSettings) (n : Nat) (m : Move) (step : Nat → Step.Run Unit)
    (marks : Nat → Bool → List Mark) : Prop where
  ignores : ∀ depth, Ignores (step depth)
  refused : ∀ (s : Session Notes) depth, ¬s.transaction.stack.Open depth →
    ∃ e, exec (step depth) s = (.error e, s)
  refused_marks : ∀ depth, marks depth false = []
  marks_events : ∀ depth accepted, (marks depth accepted).filterMap Mark.event? = []
  closes : ∀ (p : Point) world k outer, p.Sound settings n → p.path = k :: outer →
    p.stack.Open outer.length →
    let after := exec (step outer.length) ⟨p.transaction, world⟩
    ∃ es, after.2.world.trace = world.trace ++ es ∧ Quiet es ∧
      p.Leads settings n m (es.map .event ++ marks outer.length after.1.toBool)
        (p.withTransaction after.2.transaction) ∧
      after.2.transaction.stack.status outer.length ≠ .active

section

variable {settings : TransactionSettings} {n : Nat} {m : Move}

theorem Closing.commit : Closing settings n m Tx.commit fun _ => Mark.committed.upon where
  ignores := .commit
  refused _ _ := exec_commit_of_not_open
  refused_marks _ := rfl
  marks_events _ := by decide
  closes p world k outer hs hp ho := by
    have ⟨es, r, s', he, hw, hr⟩ := exec_commit (s := ⟨p.transaction, world⟩)
      (hs.connection_of_open hp)
    simp only [he]
    exact ⟨es, by rw [hw]; rfl, hr.quiet, hs.leads_of_committing hp hr, hr.status_ne_active ho⟩

theorem Closing.rollback : Closing settings n m Tx.rollback fun depth accepted =>
    Mark.rolledBack.upon (settings.nesting.everything depth && accepted) where
  ignores := .rollback
  refused _ _ := exec_rollback_of_not_open
  refused_marks _ := by rw [Bool.and_false]; rfl
  marks_events _ _ := History.event?_upon _ rfl _
  closes p world k outer hs hp ho := by
    have ⟨es, r, s', he, hw, hr⟩ := exec_rollback (s := ⟨p.transaction, world⟩)
      (hs.connection_of_open hp)
    simp only [he]
    exact ⟨es, by rw [hw]; rfl, hr.quiet, hs.leads_of_rollingBack hp hr, hr.status_ne_active ho⟩

theorem Closing.of_isEnding (settings : TransactionSettings) (n : Nat) (m : Move) {step : Step}
    (he : step.isEnding = true) :
    ∃ x, Closing settings n m x (fun depth accepted => step.marks settings.nesting depth accepted) ∧
      ∀ h : Handle, step.plain h = Step.silent (h.endBy x) := by
  cases step
  case commit => exact ⟨_, .commit, fun _ => rfl⟩
  case rollback => exact ⟨_, .rollback, fun _ => rfl⟩
  all_goals nomatch he

end

end Tx

namespace Point.Shared

variable {settings : TransactionSettings} {n : Nat} {m : Move} {inUse inUse' gone gone' : List Grip}
  {g : Grip} {p : Point} {s : Session Notes}

section

variable (hs : p.Shared settings n inUse gone)

include hs

-- The frames stay as they are and get into other hands.
theorem handed (hv : ∀ g ∈ inUse' ++ gone', g.Valid) (hn : 0 ∉ abandoned)
    (ho : p.stack.status 0 = .active → ∃ waiting ⊆ gone', Owned inUse' waiting abandoned p.path) :
    (p.withTransaction { p.transaction with abandoned := abandoned, orphaned := orphaned }).Shared
      settings n inUse' gone' where
  sound := { hs.sound with }
  valid := hv
  length := hs.length
  last := hs.last
  nested := hn
  level := hs.level
  owned := ho

theorem status_of_mem (hg : g ∈ inUse) (h₀ : p.stack.status 0 = .active) :
    p.stack.status g.handle.depth = .active := by
  have ⟨waiting, _, h⟩ := hs.owned h₀
  have hv := hs.valid_of_mem hg
  exact hs.active h₀ (h.depth_lt (List.mem_append_left _ hg) hv hs.last)

variable (hg : inUse ~ g :: inUse')

include hg

theorem valid_released : ∀ g' ∈ inUse' ++ g :: gone, g'.Valid := by
  have hp : inUse' ++ g :: gone ~ inUse ++ gone :=
    List.perm_middle.trans (hg.symm.append_right gone)
  exact fun g' hg' => hs.valid g' (hp.mem_iff.mp hg')

-- A handle that was dropped leaves its frame to others.
theorem drop (ht : p.transaction = s.transaction) :
    ∃ p', p.Passes settings n m g.lineage s [] [] p' (exec g.handle.drop s).2 ∧
      p'.Shared settings n inUse' (g :: gone) := by
  obtain ⟨t, world⟩ := s
  cases ht
  have hmem : g ∈ inUse := hg.mem_iff.mpr List.mem_cons_self
  have hv := hs.valid_released hg
  rw [Tx.exec_drop_shared (hs.valid_of_mem hmem).shared]
  by_cases hd : 0 < g.handle.depth
  case pos =>
    let abandoned := p.transaction.abandoned ++ [g.handle.depth]
    rw [if_pos hd]
    refine ⟨p.withTransaction { p.transaction with abandoned := abandoned },
      .unseen rfl rfl rfl List.suffix_rfl rfl id, hs.handed hv ?_ fun h₀ => ?_⟩
    · simpa [abandoned, Nat.ne_of_lt hd] using hs.nested
    · obtain ⟨waiting, hw, h⟩ := hs.owned h₀
      exact ⟨_, List.cons_subset_cons _ hw, (h.perm hg).abandon (decide_eq_true hd)⟩
  case neg =>
    have howned : p.stack.status 0 = .active → ∃ waiting ⊆ g :: gone,
        Owned inUse' waiting p.transaction.abandoned p.path := fun h₀ => by
      obtain ⟨waiting, hw, h⟩ := hs.owned h₀
      exact ⟨waiting, List.subset_cons_of_subset _ hw, (h.perm hg).leave (decide_eq_false hd)⟩
    rw [if_neg hd]
    split
    case isTrue =>
      exact ⟨p.withTransaction { p.transaction with orphaned := true },
        .unseen rfl rfl rfl List.suffix_rfl rfl fun _ => rfl, hs.handed hv hs.nested howned⟩
    case isFalse => exact ⟨p, .refl rfl, hs.handed hv hs.nested howned⟩

-- What was refused leaves the frame to others as long as there is something to leave.
theorem retire (ht : p.transaction = s.transaction) :
    ∃ p', p.Passes settings n m g.lineage s [] [] p' (exec g.handle.retire s).2 ∧
      p'.Shared settings n inUse' (g :: gone) := by
  by_cases ha : s.transaction.stack.status g.handle.depth = .active
  case pos =>
    rw [Tx.exec_retire_of_active ha]
    exact hs.drop hg ht
  case neg =>
    obtain ⟨t, world⟩ := s
    cases ht
    have hmem : g ∈ inUse := hg.mem_iff.mpr List.mem_cons_self
    have hv := hs.valid_released hg
    have h₀ : p.stack.status 0 ≠ .active := fun h₀ => ha (hs.status_of_mem hmem h₀)
    rw [Tx.exec_retire_of_not_active ha]
    obtain ⟨k, outer, hp, htop⟩ := hs.exists_path
    by_cases hd : 0 < g.handle.depth ∧ g.handle.depth = p.stack.top
    case pos =>
      obtain ⟨hd, hd'⟩ := hd
      rw [htop] at hd'
      rw [hd'] at hd ha ⊢
      obtain ⟨j, rest, rfl⟩ := List.exists_cons_of_length_pos hd
      refine ⟨p.popped, (Passes.refl rfl).popped hs.sound hp ha, ?_⟩
      exact hs.sound.shared_popped hv hp hs.last hs.nested ha fun h => absurd h h₀
    case neg =>
      have hpop : p.stack.pop g.handle.depth = p.stack := if_neg hd
      refine ⟨p, .unseen ?_ rfl rfl List.suffix_rfl rfl id, hs.handed hv hs.nested fun h => absurd h h₀⟩
      rw [Session.transaction_withStack]
      dsimp only
      rw [hpop]

-- The handle's frame has ended, and is forgotten unless it is the outermost one.
theorem close (h : Tx.Closing settings n m step marks) (ht : p.transaction = s.transaction)
    (ho : p.stack.Open g.handle.depth) :
    let after := exec (step g.handle.depth) s
    ∃ new p', p.Passes settings n m g.lineage s new (marks g.handle.depth after.1.toBool) p'
        (exec g.handle.retire after.2).2 ∧
      p'.Shared settings n inUse' (g :: gone) := by
  obtain ⟨t, world⟩ := s
  cases ht
  have hmem : g ∈ inUse := hg.mem_iff.mpr List.mem_cons_self
  have hv := hs.valid_released hg
  have hlin := hs.lineage_of_open hmem ho
  obtain ⟨k, outer, f, below, hr, hd⟩ := hs.ready ho
  rw [hd] at ho
  obtain ⟨es, hw, hq, hl, hna⟩ := h.closes p world k outer hs.sound hr.path ho
  have hab := (h.ignores outer.length).abandoned_eq ⟨p.transaction, world⟩
  rw [← hd] at hna
  dsimp only
  rw [Tx.exec_retire_of_not_active hna]
  rw [hd] at hna ⊢
  have hpass := Passes.of_leads (s := ⟨p.transaction, world⟩) hlin hr.live_ne_nil hl hw
    (h.marks_events _ _) fun _ => hq
  cases outer
  case nil =>
    have hs' := hs.stays hl.sound hab fun h₀ => absurd h₀ hna
    rw [List.length_nil, Stack.pop_zero]
    exact ⟨_, _, hpass, hs'.handed hv hs'.nested fun h₀ => absurd h₀ hna⟩
  case cons j rest =>
    refine ⟨_, _, hpass.popped hl.sound hr.path hna, hl.sound.shared_popped hv hr.path hs.last ?_ hna
      fun _ => ?_⟩
    · rw [withTransaction, hab]
      exact hs.nested
    · obtain ⟨waiting, hw, h⟩ := hs.owned hr.status_zero_eq
      rw [hr.path] at h hlin
      rw [withTransaction, hab]
      have hn : g.isNested = true := decide_eq_true (hd ▸ Nat.succ_pos _)
      exact ⟨waiting, List.subset_cons_of_subset _ hw, (h.perm hg).finish hn hlin⟩

-- The last step with a handle, before which the frames that others have left are given up.
theorem endBy (h : Tx.Closing settings n m step marks) (ht : p.transaction = s.transaction) :
    let after := exec (g.handle.endBy step) s
    ∃ new p', p.Passes settings n m g.lineage s new (marks g.handle.depth after.1.toBool) p' after.2 ∧
      p'.Shared settings n inUse' (g :: gone) := by
  have hmem : g ∈ inUse := hg.mem_iff.mpr List.mem_cons_self
  have hsh := (hs.valid_of_mem hmem).shared
  obtain ⟨new, p₁, hp, hs₁⟩ := Tx.Roams.enter (m := m) hmem s p hs ht
  intro after
  have he : after = _ := Tx.exec_endBy hsh step
  rw [he]
  by_cases ho : p₁.stack.Open g.handle.depth
  case pos =>
    obtain ⟨more, p₂, hp', hs₂⟩ := hs₁.close hg h hp.transaction ho
    exact ⟨new ++ more, p₂, hp.trans hp', hs₂⟩
  case neg =>
    have ho' := ho
    rw [Point.stack, hp.transaction] at ho'
    obtain ⟨e, hr⟩ := h.refused _ _ ho'
    obtain ⟨p₂, hp', hs₂⟩ := hs₁.retire (m := m) hg hp.transaction
    rw [hr]
    dsimp only
    rw [Except.toBool, h.refused_marks]
    exact ⟨new ++ [], p₂, hp.trans hp', hs₂⟩

end

section

variable (hs : p.Shared settings n inUse gone)

include hs

-- The frame of a new handle is the innermost one.
theorem pushed {stack : Stack} (hg : g ∈ inUse) (hp : p.stack.push g.handle.depth = .ok stack) :
    stack.top = p.path.length ∧
      (∀ log, Comes settings n p.transaction.orphaned p.scene log →
        Comes settings n (p.pushed stack).transaction.orphaned (p.pushed stack).scene log) ∧
      (p.pushed stack).Shared settings n
        (⟨{ g.handle with depth := stack.top }, p.opened :: g.lineage⟩ :: inUse) gone := by
  have ho := Stack.open_of_push hp
  have hlin := hs.lineage_of_open hg ho
  have hv := hs.valid_of_mem hg
  obtain ⟨k, outer, f, below, h, hd⟩ := hs.ready ho
  rw [hd] at hp
  obtain ⟨hl, htop⟩ := hs.sound.leads_of_push (m := .nested) h.path hp
  have hr := h.pushed hs.sound hp
  refine ⟨htop, fun log hc => ?_, ?_⟩
  · rw [← List.append_nil log]
    exact hl.comes h.live_ne_nil hc
  constructor
  case sound => exact hl.sound
  case valid =>
    refine List.forall_mem_cons.mpr ⟨⟨hv.shared, ?_, ?_⟩, hs.valid⟩
    · rw [List.length_cons, hlin, htop]
    · rw [hlin, ← hs.last, h.path, List.getLast?_cons_cons]
  case length => simp [hr.path, hr.frames, h.path, h.depth]
  case last =>
    have hlast := hs.last
    rw [hr.path, h.path, List.getLast?_cons_cons]
    rwa [h.path] at hlast
  case nested => exact hs.nested
  case level => exact fun _ => hr.frames ▸ hr.active
  case owned =>
    intro _
    obtain ⟨waiting, hw, hown⟩ := hs.owned h.status_zero_eq
    rw [h.path] at hown hlin htop
    refine ⟨waiting, hw, ?_⟩
    rw [hr.path, h.path]
    exact hown.push (by simp [Grip.isNested, htop]) (by rw [hlin])

-- The transaction is given up once nobody holds its outermost handle.
theorem settle (ht : p.transaction = s.transaction) (lineage : List Nat) :
    ∃ new p', p.Passes settings n .drop lineage s new [] p' (exec Tx.settle s).2 ∧
      p'.Shared settings n inUse gone := by
  obtain ⟨t, world⟩ := s
  cases ht
  have hsettle : exec Tx.settle ⟨p.transaction, world⟩ =
      if p.transaction.orphaned ∧ p.stack.status 0 = .active then
        exec Tx.abort ⟨p.transaction, world⟩
      else (.ok (), ⟨p.transaction, world⟩) := by
    rw [Tx.settle, exec_bind, Tx.exec_transaction]
    simp only [Bool.and_eq_true, decide_eq_true_eq]
    split <;> rfl
  rw [hsettle]
  split
  case isFalse => exact ⟨[], p, .refl rfl, hs⟩
  case isTrue h₀ =>
    obtain ⟨k, outer, f, below, h, hd⟩ := hs.ready (hs.open_top_iff.mpr h₀.2)
    obtain ⟨es, s', he, hw, ha⟩ := Tx.exec_abort (s := ⟨p.transaction, world⟩) h.connection
    have hab := Tx.Ignores.abort.abandoned_eq (⟨p.transaction, world⟩ : Session Notes)
    have hor := (Tx.Ignores.abort.orphaned_eq (⟨p.transaction, world⟩ : Session Notes)).trans h₀.1
    rw [he] at hab hor
    obtain ⟨es₁, r, hr, hes, hp'⟩ := h.aborting ha
    have hq := ha.quiet
    have hsound := h.sound_rolledBack hs.sound
    have hover : p.rolledBack.stack.status 0 ≠ .active := by
      rw [status_zero_of_forall (by simp [rolledBack, h.frames])
        (by simpa [rolledBack] using h.status_of_mem_rolledBack)]
      simp
    have hess : (Move.drop.log p.path (es.map .event)).essence = [] :=
      Move.essence_log hq.inessential
    rw [he]
    refine ⟨_, p.withTransaction s'.transaction, .of_quiet rfl ?_ (fun log hc => ?_) List.suffix_rfl
      rfl hess, hs.stays (hp' ▸ hsound) hab fun h₁ => absurd h₁ ?_⟩
    · rw [hw, Move.events_log, Mark.filterMap_event]
      rfl
    · rw [show (p.withTransaction s'.transaction).transaction.orphaned = true from hor, hp',
        h.scene_rolledBack, hes, ← h.path_eq]
      exact .forsaken (hc.reached_of_live h.live_ne_nil) h.live_ne_nil hr
    · have hst : s'.transaction.stack = p.rolledBack.stack := congrArg Point.stack hp'
      rwa [hst]

end

end Point.Shared

end PolySql
