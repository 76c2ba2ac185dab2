import PolySql.Proofs.Transaction.Aside
import PolySql.Proofs.Transaction.Sharing

open scoped List

namespace PolySql

-- From one point of a session to another, with what is left on the way and, up to what does not matter to
-- the effects, how a crowd writes it down.
structure Point.Passes (settings : TransactionSettings) (n : Nat) (m : Move) (lineage : List Nat)
    (p : Point) (s : Session Notes) (new : Log) (marks : List Mark) (p' : Point)
    (s' : Session Notes) : Prop where
  transaction : p'.transaction = s'.transaction
  trace : s'.world.trace = s.world.trace ++ new.events
  comes : ∀ log, Comes settings n p.transaction.orphaned p.scene log →
    Comes settings n p'.transaction.orphaned p'.scene (log ++ new)
  path : p'.path <:+ p.path
  opened : p'.opened = p.opened
  essence : new.essence = (m.log lineage (new.events.map .event ++ marks)).essence
  quiet : m.isStatement = false → Quiet new.events

section

variable {m : Move} {path : List Nat} {log : Log}

theorem Log.quiet_of_essence (h : log.essence = []) : Quiet log.events := by
  intro e he
  obtain ⟨x, hx, hxe⟩ := List.mem_filterMap.mp he
  have hn := List.filter_eq_nil_iff.mp (List.map_eq_nil_iff.mp h) x hx
  obtain ⟨site, mark⟩ := x
  cases mark
  case event e' =>
    cases hxe
    simpa [Mark.isEssential, Mark.isCommitted] using hn
  all_goals cases hxe

theorem Quiet.inessential (h : Quiet es) : ∀ x ∈ es.map Mark.event, x.isEssential = false :=
  List.forall_mem_map.mpr fun e he => by simp [Mark.isEssential, Mark.isCommitted, h e he]

theorem Move.essence_log (h : ∀ x ∈ marks, x.isEssential = false) :
    (m.log path marks).essence = [] := by
  have hn : ∀ x ∈ m.log path marks, ¬x.2.isEssential = true := by
    rw [Move.log, List.forall_mem_map]
    exact fun x hx => by simp [h x hx]
  rw [Log.essence, List.filter_eq_nil_iff.mpr hn, List.map_nil]

end

section

variable {t : Transaction}

theorem Aborting.quiet (h : Aborting n t es t') : Quiet es := by
  cases h
  case intro hr => exact (Quiet.tried hr).append (.hooks _)

theorem RollingBack.quiet (h : RollingBack n depth t es r t') : Quiet es := by
  have htold : ∀ notice, Quiet (t.told notice) := Quiet.told t.settings
  cases h
  case refused => exact List.forall_mem_nil _
  case whole hr =>
    exact (((htold _).append (.tried hr)).append (htold _)).append (.hooks _)
  case inner hr => exact (Quiet.tried hr).append (.hooks _)
  case failed hr ha =>
    refine Quiet.append (Quiet.append ?_ (.tried hr)) ha.quiet
    split
    case isTrue => exact htold _
    case isFalse => exact List.forall_mem_nil _

theorem Committing.quiet (h : Committing n depth t es r t') : Quiet es := by
  have htold : ∀ notice, Quiet (t.told notice) := Quiet.told t.settings
  cases h
  case refused => exact List.forall_mem_nil _
  case outermost hr =>
    exact (((htold _).append (.tried hr)).append (htold _)).append (.hooks _)
  case inner hr => exact (Quiet.tried hr).append (.hooks _)
  case outermostFailed hr ha => exact ((htold _).append (.tried hr)).append ha.quiet
  case innerFailed hr hb => exact (Quiet.tried hr).append hb.quiet

end

namespace Point.Passes

variable {settings : TransactionSettings} {n : Nat} {m : Move} {lineage : List Nat}
  {p p' p'' : Point} {s s' s'' : Session Notes} {new more : Log} {marks : List Mark}

-- What the scene does not show.
theorem unseen (ht : p'.transaction = s'.transaction) (hw : s'.world.trace = s.world.trace)
    (hs : p'.scene = p.scene) (hp : p'.path <:+ p.path) (ho : p'.opened = p.opened)
    (hor : p.transaction.orphaned = true → p'.transaction.orphaned = true) :
    Passes settings n m lineage p s [] [] p' s' where
  transaction := ht
  trace := hw.trans (List.append_nil _).symm
  comes log h := by
    rw [List.append_nil, hs]
    exact h.mono hor
  path := hp
  opened := ho
  essence := rfl
  quiet _ := List.forall_mem_nil _

theorem refl (h : p.transaction = s.transaction) : Passes settings n m lineage p s [] [] p s :=
  unseen h rfl rfl List.suffix_rfl rfl id

theorem trans (h : Passes settings n m lineage p s new [] p' s')
    (h' : Passes settings n m lineage p' s' more marks p'' s'') :
    Passes settings n m lineage p s (new ++ more) marks p'' s'' where
  transaction := h'.transaction
  trace := by rw [h'.trace, h.trace, Log.events_append, List.append_assoc]
  comes log hc := by
    rw [← List.append_assoc]
    exact h'.comes _ (h.comes log hc)
  path := h'.path.trans h.path
  opened := h'.opened.trans h.opened
  essence := by
    have he := h.essence
    rw [List.append_nil] at he
    rw [Log.essence_append, he, h'.essence, Log.events_append, List.map_append, List.append_assoc]
    simp only [Move.log_append, Log.essence_append]
  quiet hm := by
    rw [Log.events_append]
    exact (h.quiet hm).append (h'.quiet hm)

-- What does not matter may be left in any frame.
theorem of_quiet (ht : p'.transaction = s'.transaction)
    (hw : s'.world.trace = s.world.trace ++ new.events)
    (hc : ∀ log, Comes settings n p.transaction.orphaned p.scene log →
      Comes settings n p'.transaction.orphaned p'.scene (log ++ new))
    (hp : p'.path <:+ p.path) (ho : p'.opened = p.opened) (he : new.essence = []) :
    Passes settings n m lineage p s new [] p' s' where
  transaction := ht
  trace := hw
  comes := hc
  path := hp
  opened := ho
  essence := by rw [List.append_nil, Move.essence_log (Log.quiet_of_essence he).inessential, he]
  quiet _ := Log.quiet_of_essence he

-- Only the innermost frame is what something was done in.
theorem of_leads (hp : lineage = p.path) (hlive : p.scene.live ≠ [])
    (hl : p.Leads settings n m (es.map .event ++ marks) (p.withTransaction s'.transaction))
    (hw : s'.world.trace = s.world.trace ++ es) (hm : marks.filterMap Mark.event? = [])
    (hq : m.isStatement = false → Quiet es) :
    Passes settings n m lineage p s (m.log lineage (es.map .event ++ marks)) marks
      (p.withTransaction s'.transaction) s' := by
  have he : (m.log lineage (es.map .event ++ marks)).events = es := by
    rw [Move.events_log, List.filterMap_append, hm, Mark.filterMap_event, List.append_nil]
  constructor
  case transaction => rfl
  case trace => rw [he, hw]
  case comes => exact fun log hc => hp ▸ hl.comes hlive hc
  case path => exact List.suffix_rfl
  case opened => rfl
  case essence => rw [he]
  case quiet => rwa [he]

theorem popped (h : Passes settings n m lineage p s new marks p' s') (hs : p'.Sound settings n)
    (hp : p'.path = k :: outer) (ha : p'.stack.status outer.length ≠ .active) :
    Passes settings n m lineage p s new marks p'.popped
      (s'.withStack (s'.transaction.stack.pop outer.length)) where
  transaction := by
    have hd : p'.path.length - 1 = outer.length := by simp [hp]
    rw [Point.popped, hd, Session.transaction_withStack, Point.stack, h.transaction]
  trace := h.trace
  comes log hc := (hs.popped hp ha).2.symm ▸ h.comes log hc
  path := (List.tail_suffix _).trans h.path
  opened := h.opened
  essence := h.essence
  quiet := h.quiet

end Point.Passes

section

variable {settings : TransactionSettings} {n : Nat} {inUse gone : List Grip} {p : Point}
  {s : Session Notes}

-- A statement ends all frames or none.
theorem Running.active (h : Running n depth t es t') (h₀ : t'.stack.status 0 = .active)
    (ha : ∀ f ∈ t.stack.inward, f.status = .active) : ∀ f ∈ t'.stack.inward, f.status = .active := by
  cases h
  case refused => exact ha
  case ran =>
    rw [Stack.inward_prepared]
    exact List.forall_mem_map.mpr ha
  case unprepared hab =>
    cases hab
    exact absurd h₀ (Stack.status_rolledBackFrom_ne_active (Nat.le_refl 0))

theorem Stack.active_of_change {step : Step} {s s' : Stack} (hf : step.change? = some f)
    (hc : f depth s = .ok s') : s.Open depth ∧
      ((∀ g ∈ s.inward, g.status = .active) → ∀ g ∈ s'.inward, g.status = .active) := by
  obtain ⟨ho, g, below, cs, rs, _, _, hi, -, rfl⟩ := of_change hf hc
  rw [hi, inward_withInward]
  exact ⟨ho, fun ha => List.forall_mem_cons.mpr (List.forall_mem_cons.mp ha)⟩

-- The innermost frame is rolled back, which is refused once the transaction has ended.
theorem Point.Sound.passes_of_rollback (hs : p.Sound settings n) (ht : p.transaction = s.transaction)
    (hp : p.path = k :: outer) (ho : p.stack.status 0 = .active → p.stack.Open outer.length)
    (m : Move) (lineage : List Nat) :
    let s' := (exec (Tx.rollback outer.length) s).2
    ∃ new, p.Passes settings n m lineage s new [] (p.withTransaction s'.transaction) s' ∧
      new.essence = [] ∧ (p.withTransaction s'.transaction).Sound settings n ∧
      s'.transaction.stack.status outer.length ≠ .active ∧
      (s'.transaction.stack.status 0 = .active → p.stack.status 0 = .active) := by
  obtain ⟨t, world⟩ := s
  cases ht
  intro s'
  by_cases h₀ : p.stack.status 0 = .active
  case pos =>
    obtain ⟨es, r, s₁, he, hw, hr⟩ := Tx.exec_rollback (s := ⟨p.transaction, world⟩)
      (hs.connection_of_open hp)
    have hs' : s' = s₁ := congrArg Prod.snd he
    rw [hs']
    have hl : p.Leads settings n .drop _ _ := hs.leads_of_rollingBack hp hr
    have hm : ∀ accepted, ∀ x ∈ Mark.rolledBack.upon accepted, x.isEssential = false := by decide
    have hm' : ∀ accepted, (Mark.rolledBack.upon accepted).filterMap Mark.event? = [] := by decide
    have hlive : p.scene.live ≠ [] := by
      have ⟨f, below, h⟩ := hs.ready hp (ho h₀)
      exact h.live_ne_nil
    let reported := Mark.rolledBack.upon (settings.nesting.everything outer.length && r.toBool)
    have hess : (Move.drop.log p.path (es.map .event ++ reported)).essence = [] :=
      Move.essence_log (List.forall_mem_append.mpr ⟨hr.quiet.inessential, hm _⟩)
    refine ⟨_, .of_quiet rfl ?_ (fun log => hl.comes hlive) List.suffix_rfl rfl hess, hess, hl.sound,
      hr.status_ne_active (ho h₀), fun _ => h₀⟩
    rw [hw, Move.events_log, List.filterMap_append, hm', Mark.filterMap_event, List.append_nil]
    rfl
  case neg =>
    have hna : p.stack.status outer.length ≠ .active := fun ha => by
      have ⟨f, below, hf, hl⟩ := hs.exists_frames hp
      have ⟨f, below, h⟩ := hs.ready hp ⟨ha, hl ▸ (Stack.top_eq hf).symm⟩
      exact h₀ h.status_zero_eq
    have hs' : s' = ⟨p.transaction, world⟩ := Tx.exec_rollback_of_not_active hna
    rw [hs']
    exact ⟨[], .refl rfl, rfl, hs, hna, id⟩

namespace Point.Shared

variable (hs : p.Shared settings n inUse gone) (ht : p.transaction = s.transaction)

include hs ht

-- The innermost frame is given up, because its handle is gone.
theorem discard (ha : s.transaction.stack.top ∈ s.transaction.abandoned) (m : Move)
    (lineage : List Nat) :
    let s' : Session Notes := { s with transaction := { s.transaction with
      abandoned := s.transaction.abandoned.erase s.transaction.stack.top } }
    ∃ new p', p.Passes settings n m lineage s new [] p'
        (exec (Handle.discard s.transaction.stack.top) s').2 ∧
      new.essence = [] ∧ p'.Shared settings n inUse gone := by
  obtain ⟨t, world⟩ := s
  cases ht
  intro s'
  obtain ⟨k, outer, hp, htop⟩ := hs.exists_path
  have hne : outer.length ≠ 0 := fun h => hs.nested (h ▸ htop ▸ ha)
  obtain ⟨j, rest, rfl⟩ := List.exists_cons_of_length_pos (Nat.pos_of_ne_zero hne)
  let p₁ := p.withTransaction s'.transaction
  have hs₁ : p₁.Sound settings n := { hs.sound with }
  obtain ⟨new, hpass, he, hs₂, hna, hz⟩ := hs₁.passes_of_rollback (s := s') rfl hp
    (fun h₀ => htop ▸ hs.open_top_iff.mpr h₀) m lineage
  have hab : (exec (Tx.rollback (j :: rest).length) s').2.transaction.abandoned =
      p.transaction.abandoned.erase p.stack.top := (Tx.Ignores.rollback _).abandoned_eq s'
  have hpop := hpass.popped hs₂ hp hna
  have hd : p.transaction.stack.top = (j :: rest).length := htop
  dsimp only at ha
  rw [hd] at ha
  rw [Tx.exec_discard, hd]
  refine ⟨new, _, { hpop with }, he, hs₂.shared_popped hs.valid hp hs.last ?_ hna fun h₀ => ?_⟩
  · rw [Point.withTransaction, hab]
    exact fun h => hs.nested (List.mem_of_mem_erase h)
  · obtain ⟨waiting, hw, h⟩ := hs.owned (hz h₀)
    rw [hp] at h
    obtain ⟨w, -, h'⟩ := h.discard (hs.valid_waiting hw) (hp ▸ hs.last) ha
    refine ⟨waiting.erase w, fun g hg => hw (List.mem_of_mem_erase hg), ?_⟩
    rw [Point.withTransaction, hab, htop]
    exact h'

theorem discardAbandoned (fuel : Nat) (m : Move) (lineage : List Nat) :
    ∃ new p', p.Passes settings n m lineage s new [] p' (exec (Handle.discardAbandoned fuel) s).2 ∧
      new.essence = [] ∧ p'.Shared settings n inUse gone := by
  induction fuel generalizing p s
  case zero => exact ⟨[], p, .refl ht, rfl, hs⟩
  case succ fuel ih =>
    by_cases ha : s.transaction.stack.top ∈ s.transaction.abandoned
    case pos =>
      obtain ⟨new, p₁, hp, he, hs₁⟩ := hs.discard ht ha m lineage
      obtain ⟨more, p₂, hp', he', hs₂⟩ := ih hs₁ hp.transaction
      rw [Tx.exec_discardAbandoned_of_mem ha]
      exact ⟨new ++ more, p₂, hp.trans hp', by rw [Log.essence_append, he, he']; rfl, hs₂⟩
    case neg =>
      rw [Tx.exec_discardAbandoned_of_tidy ha]
      exact ⟨[], p, .refl ht, rfl, hs⟩

end Point.Shared

end

-- A computation on one of the handles in use of a transaction that is in several hands.
def Tx.Roams {α : Type} (settings : TransactionSettings) (n : Nat) (m : Move) (g : Grip)
    (inUse gone : List Grip) (x : Step.Run α) (marks : Bool → List Mark) : Prop :=
  ∀ (s : Session Notes) (p : Point), p.Shared settings n inUse gone → p.transaction = s.transaction →
    ∃ new p', p.Passes settings n m g.lineage s new (marks (exec x s).1.toBool) p' (exec x s).2 ∧
      p'.Shared settings n inUse gone

namespace Tx.Roams

variable {α β : Type} {settings : TransactionSettings} {n : Nat} {m : Move} {g : Grip}
  {inUse gone : List Grip} {x : Step.Run α} {marks : Bool → List Mark}

theorem of_hidden (h : Hidden x) : Roams settings n m g inUse gone x Leaves.Nothing := by
  intro s p hs ht
  have ⟨ht', hw, _⟩ := h s
  exact ⟨[], p, .unseen (ht.trans ht'.symm) hw rfl List.suffix_rfl rfl id, hs⟩

theorem bind {f : α → Step.Run β} (hx : Roams settings n m g inUse gone x Leaves.Nothing)
    (hf : ∀ a, Roams settings n m g inUse gone (f a) marks) (hm : marks false = []) :
    Roams settings n m g inUse gone (x >>= f) marks := by
  intro s p hs ht
  obtain ⟨new, p₁, hp, hs₁⟩ := hx s p hs ht
  rcases he : exec x s with ⟨_ | a, s₁⟩
  case error e =>
    rw [he] at hp
    rw [exec_bind_of_error he]
    exact ⟨new, p₁, by rwa [Except.toBool, hm], hs₁⟩
  case ok =>
    rw [he] at hp
    rw [exec_bind_of_ok he]
    obtain ⟨more, p₂, hp', hs₂⟩ := hf a s₁ p₁ hs₁ hp.transaction
    exact ⟨new ++ more, p₂, hp.trans hp', hs₂⟩

theorem map (f : α → β) (hx : Roams settings n m g inUse gone x marks) :
    Roams settings n m g inUse gone (f <$> x) marks := by
  intro s p hs ht
  obtain ⟨new, p', hp, hs'⟩ := hx s p hs ht
  rw [exec_map]
  refine ⟨new, p', ?_, hs'⟩
  cases he : (exec x s).1 <;> simpa [he, Except.toBool, Except.map] using hp

theorem silent {x : Step.Run Unit} (h : Roams settings n m g inUse gone x marks) :
    Roams settings n m g inUse gone (Step.silent x) marks := by
  have he : Step.silent x = (fun _ => Reply.nothing) <$> x := by
    rw [map_eq_pure_bind]
    rfl
  exact he ▸ h.map _

section

variable (hg : g ∈ inUse)

include hg

theorem enter : Roams settings n m g inUse gone g.handle.enter Leaves.Nothing := by
  intro s p hs ht
  rw [exec_enter_shared (hs.valid_of_mem hg).shared]
  obtain ⟨new, p', hp, -, hs'⟩ := hs.discardAbandoned ht s.transaction.abandoned.length m g.lineage
  exact ⟨new, p', hp, hs'⟩

theorem change {step : Step} (hf : step.change? = some f) :
    Roams settings n m g inUse gone (Tx.change (f g.handle.depth))
      (step.marks settings.nesting g.handle.depth) := by
  intro s p hs ht
  obtain ⟨t, world⟩ := s
  cases ht
  rw [exec_change]
  cases hc : f g.handle.depth p.stack
  case error e =>
    dsimp only [Except.toBool]
    rw [Step.marks_of_change hf]
    exact ⟨[], p, .refl rfl, hs⟩
  case ok stack =>
    have ⟨ho, ha⟩ := Stack.active_of_change hf hc
    obtain ⟨k, outer, f', below, h, hd⟩ := hs.ready ho
    rw [hd] at hc
    let s' : Session Notes := Session.withStack ⟨p.transaction, world⟩ stack
    have hl : p.Leads settings n m (([] : List Event).map .event ++ _)
        (p.withTransaction s'.transaction) :=
      hs.sound.leads_of_change h.path hf hc
    have hw : s'.world.trace = world.trace ++ [] := (List.append_nil _).symm
    have hp := Point.Passes.of_leads (s := ⟨p.transaction, world⟩) (hs.lineage_of_open hg ho)
      h.live_ne_nil hl hw (History.event?_marks ..) fun _ => List.forall_mem_nil _
    rw [hd]
    refine ⟨_, _, hp, hs.stays hl.sound rfl fun _ => ⟨h.status_zero_eq, ha ?_⟩⟩
    exact hs.level h.status_zero_eq

theorem runTask (hm : m.isStatement = true) (operation sql : String) (hc : t.isControl = false) :
    Roams settings n m g inUse gone (Tx.runTask g.handle.depth operation sql t) Leaves.Nothing := by
  intro s p hs ht
  obtain ⟨t₀, world⟩ := s
  cases ht
  by_cases ho : p.stack.Open g.handle.depth
  case neg =>
    have ⟨e, he⟩ := exec_runTask_of_not_open (s := ⟨p.transaction, world⟩) ho operation sql t
    rw [he]
    exact ⟨[], p, .refl rfl, hs⟩
  case pos =>
    obtain ⟨k, outer, f, below, h, hd⟩ := hs.ready ho
    obtain ⟨es, r, s', he, hw, hr⟩ := exec_runTask (s := ⟨p.transaction, world⟩)
      (fun _ => hs.connection_of_open ho) operation sql hc
    have hr' : Running n outer.length p.transaction es s'.transaction := by rwa [← hd]
    have hl := hs.sound.leads_of_running h.path hm hr'
    rw [← List.append_nil (es.map Mark.event)] at hl
    have hp := Point.Passes.of_leads (s := ⟨p.transaction, world⟩) (hs.lineage_of_open hg ho)
      h.live_ne_nil hl (by rw [hw]; rfl) rfl fun hn => nomatch hm.symm.trans hn
    have hab := (Ignores.runTask g.handle.depth operation sql t).abandoned_eq ⟨p.transaction, world⟩
    rw [he] at hab ⊢
    exact ⟨_, _, hp, hs.stays hl.sound hab fun h₀ =>
      ⟨h.status_zero_eq, hr.active h₀ (hs.level h.status_zero_eq)⟩⟩

theorem visits {step : Step} {x : Handle → Step.Run α} (h : Visits step x) :
    Roams settings n (.step step) g inUse gone (x g.handle) Leaves.Nothing := by
  induction h
  case hidden f hf => exact of_hidden (hf _)
  case enter => exact enter hg
  case runTask operation sql hst hc =>
    have hm : (Move.step step).isStatement = true := hst
    exact (enter hg).bind (fun _ => runTask hg hm operation sql hc) rfl
  case bind hx hf => exact hx.bind hf rfl

-- A step that does not end the handle's use of the transaction.
theorem plain {step : Step} (he : step.isEnding = false) :
    Roams settings n (.step step) g inUse gone (step.plain g.handle)
      (step.marks settings.nesting g.handle.depth) := by
  rcases hf : step.change? with _ | f
  case none =>
    rw [Step.marks_of_visits hf he]
    exact visits hg (Step.visits hf he)
  case some =>
    rw [Step.plain_of_change hf]
    exact silent ((enter hg).bind (fun _ => change hg hf) (Step.marks_of_change hf))

end

end Tx.Roams

end PolySql
