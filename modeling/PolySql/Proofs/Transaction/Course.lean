import PolySql.Proofs.Transaction.Numbering
import PolySql.Proofs.Transaction.Point

namespace PolySql

namespace Point

-- From one point to another, with the marks that are left on the way.
structure Leads (settings : TransactionSettings) (n : Nat) (m : Move) (p : Point)
    (marks : List Mark) (p' : Point) : Prop where
  sound : p'.Sound settings n
  reached : Reached settings n p.scene log →
    Reached settings n p'.scene (log ++ m.log p.path marks)

variable {settings : TransactionSettings} {n : Nat} {m : Move} {p p' : Point}

theorem Leads.refl (hs : p.Sound settings n) : Leads settings n m p [] p where
  sound := hs
  reached h := by simpa [Move.log] using h

theorem Leads.trans (h₁ : Leads settings n m p marks p') (h₂ : Leads settings n m p' more p'')
    (hp : p'.path = p.path) : Leads settings n m p (marks ++ more) p'' where
  sound := h₂.sound
  reached h := by
    have h' := h₂.reached (h₁.reached h)
    rw [hp] at h'
    simpa [Move.log] using h'

theorem Ready.leads (h : p.Ready n k outer f below) (hs : p'.Sound settings n)
    (he : p'.scene = s) (ht : Shift settings n m p.scene marks s) :
    Leads settings n m p marks p' where
  sound := hs
  reached hr := by
    rw [← h.path_eq, he]
    exact .shift m hr ht

theorem Sound.told_eq (hs : p.Sound settings n) (notice : Notice) :
    p.transaction.told notice = settings.told notice := by
  simp [Transaction.told, TransactionSettings.told, hs.settings_eq]

theorem Sound.dialect_eq (hs : p.Sound settings n) :
    p.transaction.settings.dialect = settings.dialect := by
  rw [hs.settings_eq]

-- An outermost frame has no frames below, and a nested one has.
theorem Ready.live_length (h : p.Ready n k outer f below) :
    p.scene.live.length = outer.length + 1 := by
  simp [h.live_eq, h.depth]

theorem Ready.exists_below (h : p.Ready n k outer f below) (hd : outer.length ≠ 0) :
    ∃ j outer' g rest, outer = j :: outer' ∧ below = g :: rest ∧
      p.scene.live = (k, f) :: (j, g) :: outer'.zip rest := by
  match outer, below, h, hd with
  | j :: outer', g :: rest, h, _ => exact ⟨j, outer', g, rest, rfl, rfl, h.live_eq⟩
  | [], _, _, hd => exact absurd rfl hd
  | _ :: _, [], h, _ => exact absurd h.depth (by simp)

namespace Ready

variable (h : p.Ready n k outer f below)

include h

theorem created?_eq : p.stack.created? outer.length = f.createdSavepoint? :=
  h.depth ▸ Stack.created?_length h.frames

theorem rollingBack_inner (he : p.stack.rollsBackEverything outer.length = false) :
    p.stack.rollingBack outer.length =
      f.createdSavepoint?.toList.map (.rollbackTo ·.name) := by
  rw [Stack.rollingBack, if_neg (by simp [he]), h.created?_eq]

theorem committing_inner (hd : outer.length ≠ 0) :
    p.stack.committing outer.length = f.createdSavepoint?.toList.map (.release ·.name) := by
  rw [Stack.committing, if_neg hd, h.created?_eq]

variable (hs : p.Sound settings n)

include hs

theorem whole_of_everything (he : p.stack.rollsBackEverything outer.length = true) :
    p.scene.live.length = 1 ∨ settings.nesting = .flat := by
  simpa [Stack.rollsBackEverything, h.live_length, hs.nesting_eq] using he

-- The innermost frame ends by itself, and the ones below may change as long as they stay active.
theorem inner_ended (hf : f'.status ≠ .active) (hb : below' ≠ [])
    (hl : below'.length = below.length) (ha : ∀ g ∈ below', g.status = .active) :
    (p.withInward (f' :: below')).Sound settings n ∧
      (p.withInward (f' :: below')).scene = { p.scene with live := outer.zip below' } := by
  have hz : (p.stack.withInward (f' :: below')).status 0 = p.stack.status 0 := by
    have ⟨g, rest, he⟩ := List.exists_cons_of_ne_nil hb
    rw [h.status_zero_eq, status_zero_of_cons (by rw [Stack.inward_withInward, he]) (he ▸ ha)]
  refine ⟨hs.withInward (by simp) (by simp [h.frames, hl]) (.inl ha) hz, ?_⟩
  rw [scene_withInward hz, h.path, live_cons_not hf, live_of_forall ha]
  rfl

end Ready

theorem Sound.rollsBackEverything_eq (hs : p.Sound settings n) :
    p.stack.rollsBackEverything depth = settings.nesting.everything depth := by
  rw [Stack.rollsBackEverything, hs.nesting_eq, Nesting.everything]

theorem Sound.inner_of_not_everything (hs : p.Sound settings n)
    (he : p.stack.rollsBackEverything depth = false) :
    depth ≠ 0 ∧ settings.nesting = .savepoints := by
  simp only [Stack.rollsBackEverything, hs.nesting_eq] at he
  cases hn : settings.nesting <;> simp_all

theorem Sound.flat_of_everything (hs : p.Sound settings n)
    (he : p.stack.rollsBackEverything depth = true) (hd : depth ≠ 0) :
    settings.nesting = .flat := by
  simpa [Stack.rollsBackEverything, hs.nesting_eq, hd] using he

-- A control that failed at `p'`, right after `p`, was worth the whole transaction.
theorem Ready.leads_of_aborting (h : p.Ready n k outer f below)
    (hc : Crucial settings m p.scene told controls p'.scene) (h' : p'.Ready n k outer f' below')
    (hs : p'.Sound settings n) (ht : Tried n controls es (.error e))
    (ha : Aborting n p'.transaction es' t') :
    Leads settings n m p ((told ++ es ++ es').map .event) (p'.withTransaction t') := by
  have ⟨es₁, r, hr, he, hp⟩ := h'.aborting ha
  rw [hp, he, ← List.append_assoc]
  exact h.leads (h'.sound_rolledBack hs) h'.scene_rolledBack
    (.aborted (by simp [h.live_eq]) hc ht hr)

namespace Sound

variable (hs : p.Sound settings n) (hp : p.path = k :: outer)

include hs hp

theorem leads_of_running (hm : m.isStatement = true)
    (hr : Running n outer.length p.transaction es t') :
    Leads settings n m p (es.map .event) (p.withTransaction t') := by
  cases hr
  case refused ho => exact .refl hs
  case ran es task sql sent succeeded ho ht hc =>
    have ⟨f, below, h⟩ := hs.ready hp ho
    rw [hs.dialect_eq, ← h.due_eq] at ht
    rw [hs.told_eq, hs.told_eq]
    exact h.leads (h.sound_prepared hs) h.scene_prepared
      (.ran sql sent succeeded (by simp [h.live_eq]) hm ht hc)
  case unprepared es e es' ho ht ha =>
    have ⟨f, below, h⟩ := hs.ready hp ho
    rw [hs.dialect_eq, ← h.due_eq] at ht
    have hc : Crucial settings m p.scene [] (p.scene.due settings.dialect.effectiveIsolation)
      p.prepared.scene := h.scene_prepared ▸ .preparation hm
    exact h.leads_of_aborting hc h.prepared (h.sound_prepared hs) ht ha

theorem leads_of_rollingBack (hr : RollingBack n outer.length p.transaction es r t') :
    Leads settings n m p
      (es.map .event ++
        Mark.rolledBack.upon (settings.nesting.everything outer.length && r.toBool))
      (p.withTransaction t') := by
  cases hr
  case refused e ho =>
    rw [Except.toBool, Bool.and_false, Mark.upon_false]
    exact .refl hs
  case whole es ho he ht =>
    obtain ⟨f, below, h⟩ := hs.ready hp ho
    have ht : Tried n (p.scene.whole .rollback) es (.ok ()) := by
      rwa [Stack.rollingBack, if_pos he] at ht
    rw [hs.told_eq, hs.told_eq, ← hs.rollsBackEverything_eq, he, Stack.rolledBack, if_pos he,
      Stack.rolledBackFrom_zero]
    dsimp only
    rw [← h.rollbackHooks_eq]
    exact h.leads (h.sound_rolledBack hs) h.scene_rolledBack
      (.rolledBack (by simp [h.live_eq]) (h.whole_of_everything hs he) ht)
  case inner es ho he ht =>
    obtain ⟨f, below, h⟩ := hs.ready hp ho
    obtain ⟨hd, hn⟩ := hs.inner_of_not_everything he
    obtain ⟨j, outer', g, rest, hj, hg, hl⟩ := h.exists_below hd
    obtain ⟨hf, ha⟩ := List.forall_mem_cons.mp h.active
    have hrf : f.rolledBack.status ≠ .active := by simp [Frame.rolledBack, hf]
    obtain ⟨hs', hsc⟩ := h.inner_ended hs hrf (by simp [hg]) rfl ha
    have hz : outer.zip below = (j, g) :: outer'.zip rest := by rw [hj, hg, List.zip_cons_cons]
    rw [h.rollingBack_inner he] at ht
    rw [← hs.rollsBackEverything_eq, he, Stack.rolledBack, if_neg (by simp [he]), ← h.depth,
      Stack.rolledBackFrom_length h.frames, Bool.false_and, Mark.upon_false, List.append_nil]
    exact h.leads hs' (hz ▸ hsc) (.undone hl hn ht)
  case failed es e es' ho ht ha =>
    obtain ⟨f, below, h⟩ := hs.ready hp ho
    rw [Except.toBool, Bool.and_false, Mark.upon_false, List.append_nil]
    cases he : p.stack.rollsBackEverything outer.length
    case true =>
      have ht : Tried n (p.scene.whole .rollback) es (.error e) := by
        rwa [Stack.rollingBack, if_pos he] at ht
      rw [if_pos rfl, hs.told_eq]
      exact h.leads_of_aborting (.rollback (h.whole_of_everything hs he)) h hs ht ha
    case false =>
      obtain ⟨hd, hn⟩ := hs.inner_of_not_everything he
      obtain ⟨j, outer', g, rest, _, _, hl⟩ := h.exists_below hd
      rw [h.rollingBack_inner he] at ht
      rw [if_neg (by simp)]
      exact h.leads_of_aborting (.rollbackTo hl hn) h hs ht ha

theorem leads_of_committing (hr : Committing n outer.length p.transaction es r t') :
    Leads settings n m p (es.map .event ++ Mark.committed.upon r.toBool) (p.withTransaction t') := by
  cases hr
  case refused e ho =>
    rw [Except.toBool, Mark.upon_false]
    exact .refl hs
  case outermost es ho hd ht =>
    obtain ⟨f, below, h⟩ := hs.ready hp ho
    have hb : below = [] := List.length_eq_zero_iff.mp (h.depth.trans hd)
    have ho' : outer = [] := List.length_eq_zero_iff.mp hd
    have hl : p.scene.live = [(k, f)] := by rw [h.live_eq, ho', List.zip_nil_left]
    have hc : ∀ g ∈ [f.committed], g.status = .committed := by simp [Frame.committed]
    have ht : Tried n (p.scene.whole .commit) es (.ok ()) := by
      rwa [Stack.committing, if_pos hd] at ht
    rw [hs.told_eq, hs.told_eq, hd, Stack.committed_nil h.frames hb]
    exact h.leads (hs.withEnded (by simp) (by simp [h.frames, hb]) hc (by simp))
      (scene_withEnded (by simp) hc (by simp)) (.committed hl ht)
  case inner es ho hd ht =>
    obtain ⟨f, below, h⟩ := hs.ready hp ho
    obtain ⟨j, outer', g, rest, hj, hg, hl⟩ := h.exists_below hd
    have hcf : f.committed.status ≠ .active := by simp [Frame.committed]
    have ha : ∀ g' ∈ g.inherit f :: rest, g'.status = .active := by
      have := h.active
      simp_all [Frame.inherit]
    obtain ⟨hs', hsc⟩ := h.inner_ended hs hcf (by simp) (by simp [hg]) ha
    rw [hj, List.zip_cons_cons] at hsc
    rw [h.committing_inner hd] at ht
    rw [← h.depth, Stack.committed_cons h.frames hg]
    simp only [hookEvents, List.map_nil, List.append_nil]
    exact h.leads hs' hsc (.merged hl ht)
  case outermostFailed es e es' ho hd ht ha =>
    obtain ⟨f, below, h⟩ := hs.ready hp ho
    have ho' : outer = [] := List.length_eq_zero_iff.mp hd
    have hl : p.scene.live = [(k, f)] := by rw [h.live_eq, ho', List.zip_nil_left]
    have ht : Tried n (p.scene.whole .commit) es (.error e) := by
      rwa [Stack.committing, if_pos hd] at ht
    rw [hs.told_eq, Except.toBool, Mark.upon_false, List.append_nil]
    exact h.leads_of_aborting (.commit hl) h hs ht ha
  case innerFailed es e es' r ho hd ht hr =>
    obtain ⟨f, below, h⟩ := hs.ready hp ho
    obtain ⟨j, outer', g, rest, hj, hg, hl⟩ := h.exists_below hd
    rw [h.committing_inner hd] at ht
    have h₁ : Leads settings n m p (es.map .event) p := h.leads hs rfl (.unreleased hl ht)
    have h₂ := hs.leads_of_rollingBack hp (m := m) hr
    rw [Except.toBool, Mark.upon_false, List.append_nil, List.map_append]
    refine ⟨h₂.sound, fun hrch => ?_⟩
    cases he : p.stack.rollsBackEverything outer.length
    case false =>
      rw [← hs.rollsBackEverything_eq, he, Bool.false_and, Mark.upon_false, List.append_nil] at h₂
      exact (h₁.trans h₂ rfl).reached hrch
    case true =>
      -- Without a savepoint there is nothing to release.
      have hf := hrch.savepoint_eq_none (hs.flat_of_everything he hd) (x := (k, f)) (by simp [hl])
      rw [Frame.createdSavepoint?, show f.savepoint = none from hf] at ht
      cases ht

end Sound

end Point

end PolySql
