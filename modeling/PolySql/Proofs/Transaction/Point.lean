import PolySql.Proofs.Transaction.Scene

namespace PolySql

-- A transaction under way: the numbers of the frames whose handles are open, innermost first, and how
-- many frames there have been.
structure Point where
  transaction : Transaction
  path : List Nat
  opened : Nat

namespace Point

def start (settings : TransactionSettings) (n : Nat) : Point :=
  ⟨.new settings n, [0], 1⟩

abbrev stack (p : Point) : Stack :=
  p.transaction.stack

def live (path : List Nat) (frames : List Frame) : List (Nat × Frame) :=
  (path.zip frames).filter (·.2.status = .active)

def scene (p : Point) : Scene :=
  ⟨p.stack.status 0, p.stack.isolation, p.stack.readOnly, p.stack.begun, p.opened,
    live p.path p.stack.inward⟩

-- At most the innermost frame has ended, or all have.
def Standing (frames : List Frame) : Prop :=
  (∀ f ∈ frames.tail, f.status = .active) ∨ ∀ f ∈ frames, f.status ≠ .active

structure Sound (settings : TransactionSettings) (n : Nat) (p : Point) : Prop where
  settings_eq : p.transaction.settings = settings
  nesting_eq : p.stack.nesting = settings.nesting
  bottom : p.stack.inward ≠ []
  standing : Standing p.stack.inward
  aligned : p.path.length = p.stack.inward.length ∨ p.path = [] ∧ p.stack.status 0 ≠ .active
  connected : p.transaction.connection = if p.stack.status 0 = .active then some n else none
  counted : settings.nesting = .savepoints → p.opened = p.stack.savepointCount + 1

-- The innermost handle may be used: it is the one of frame `k`, and all frames are active.
structure Ready (n : Nat) (p : Point) (k : Nat) (outer : List Nat) (f : Frame) (below : List Frame) :
    Prop where
  path : p.path = k :: outer
  frames : p.stack.inward = f :: below
  depth : below.length = outer.length
  active : ∀ g ∈ f :: below, g.status = .active
  connection : p.transaction.connection = some n

section

variable {s : Stack}

theorem status_zero (s : Stack) :
    s.status 0 = (s.inward.getLast?.map Frame.status).getD .closed := by
  simp [Stack.status, Stack.inward, List.head?_eq_getElem?.symm]
  cases s.frames.head? <;> rfl

theorem status_zero_of_nil (h : s.inward = [f]) : s.status 0 = f.status := by
  simp [status_zero, h]

theorem status_zero_of_forall (hb : s.inward ≠ []) (h : ∀ f ∈ s.inward, f.status = status) :
    s.status 0 = status := by
  simp [status_zero, List.getLast?_eq_some_getLast hb, h _ (List.getLast_mem hb)]

theorem status_zero_of_cons (h : s.inward = f :: g :: rest)
    (ha : ∀ f ∈ g :: rest, f.status = .active) : s.status 0 = .active := by
  have hm := ha _ (List.getLast_mem (List.cons_ne_nil g rest))
  simp [status_zero, h, List.getLast?_eq_some_getLast, hm]

end

section

variable {path : List Nat} {frames : List Frame}

theorem live_of_forall (h : ∀ f ∈ frames, f.status = .active) :
    live path frames = path.zip frames := by
  simp only [live, List.filter_eq_self]
  exact fun x hx => by simp [h _ (List.of_mem_zip hx).2]

theorem live_of_forall_not (h : ∀ f ∈ frames, f.status ≠ .active) : live path frames = [] := by
  simp only [live, List.filter_eq_nil_iff]
  exact fun x hx => by simp [h _ (List.of_mem_zip hx).2]

theorem live_cons_not (h : f.status ≠ .active) :
    live (k :: path) (f :: frames) = live path frames := by
  simp [live, h]

end

variable {settings : TransactionSettings} {n : Nat} {p : Point}

theorem sound_start : (start settings n).Sound settings n where
  settings_eq := rfl
  nesting_eq := rfl
  bottom := by simp [start, Transaction.new, TransactionSettings.stack, Stack.new, Stack.inward]
  standing := .inl <| by
    simp [start, Transaction.new, TransactionSettings.stack, Stack.new, Stack.inward]
  aligned := .inl rfl
  connected := rfl
  counted _ := rfl

namespace Sound

variable (hs : p.Sound settings n)

include hs

theorem exists_frames (hp : p.path = k :: outer) :
    ∃ f below, p.stack.inward = f :: below ∧ below.length = outer.length := by
  have hl := hs.aligned.resolve_right (by simp [hp])
  cases hf : p.stack.inward
  case nil => exact absurd hf hs.bottom
  case cons f below =>
    rw [hp, hf] at hl
    exact ⟨f, below, rfl, (Nat.succ.inj hl).symm⟩

theorem ready (hp : p.path = k :: outer) (ho : p.stack.Open outer.length) :
    ∃ f below, p.Ready n k outer f below := by
  have ⟨f, below, hf, hl⟩ := hs.exists_frames hp
  have hf₁ : f.status = .active := (Stack.open_length_iff hf).mp (hl ▸ ho)
  have ha : ∀ g ∈ f :: below, g.status = .active := by
    have h := hs.standing
    simp only [Standing, hf, List.tail_cons, List.forall_mem_cons] at h ⊢
    exact ⟨hf₁, h.resolve_right (absurd hf₁ ·.1)⟩
  have hz : p.stack.status 0 = .active := status_zero_of_forall hs.bottom (hf ▸ ha)
  exact ⟨f, below, hp, hf, hl, ha, by simp [hs.connected, hz]⟩

theorem connection_of_open (hp : p.path = k :: outer) :
    p.stack.Open outer.length → p.transaction.connection = some n := by
  intro ho
  have ⟨_, _, h⟩ := hs.ready hp ho
  exact h.connection

end Sound

namespace Ready

variable (h : p.Ready n k outer f below)

include h

theorem is_open : p.stack.Open outer.length :=
  h.depth ▸ (Stack.open_length_iff h.frames).mpr (h.active f (by simp))

theorem status_zero_eq : p.stack.status 0 = .active :=
  status_zero_of_forall (by simp [h.frames]) (h.frames ▸ h.active)

theorem live_eq : p.scene.live = (k, f) :: outer.zip below := by
  simp only [scene, h.path, h.frames, live_of_forall h.active, List.zip_cons_cons]

theorem path_eq : p.scene.path = p.path := by
  simp [Scene.path, h.live_eq, h.path, List.map_fst_zip (Nat.le_of_eq h.depth.symm)]

theorem sound (hs : p.transaction.settings = settings) (hn : p.stack.nesting = settings.nesting)
    (hc : settings.nesting = .savepoints → p.opened = p.stack.savepointCount + 1) :
    p.Sound settings n where
  settings_eq := hs
  nesting_eq := hn
  bottom := by simp [h.frames]
  standing := .inl <| by
    rw [h.frames]
    exact (List.forall_mem_cons.mp h.active).2
  aligned := .inl <| by simp [h.frames, h.path, h.depth]
  connected := by rw [h.connection, h.status_zero_eq, if_pos rfl]
  counted := hc

end Ready

def withTransaction (p : Point) (t : Transaction) : Point :=
  { p with transaction := t }

-- The frames change and nothing else.
def withInward (p : Point) (frames : List Frame) : Point :=
  p.withTransaction { p.transaction with stack := p.stack.withInward frames }

-- The transaction ends with its frames.
def withEnded (p : Point) (frames : List Frame) : Point :=
  p.withTransaction
    { p.transaction with stack := p.stack.withInward frames, connection := none }

def rolledBack (p : Point) : Point :=
  p.withEnded (p.stack.inward.map Frame.rolledBack)

@[simp]
theorem stack_withInward (p : Point) : (p.withInward frames).stack = p.stack.withInward frames :=
  rfl

@[simp]
theorem stack_withEnded (p : Point) : (p.withEnded frames).stack = p.stack.withInward frames :=
  rfl

@[simp]
theorem path_withInward (p : Point) : (p.withInward frames).path = p.path :=
  rfl

@[simp]
theorem path_withEnded (p : Point) : (p.withEnded frames).path = p.path :=
  rfl

theorem scene_withInward (h : (p.stack.withInward frames).status 0 = status) :
    (p.withInward frames).scene = { p.scene with status := status, live := live p.path frames } := by
  simp only [scene, stack_withInward, h, Stack.inward_withInward]
  rfl

theorem scene_withEnded (hb : frames ≠ []) (h : ∀ f ∈ frames, f.status = status)
    (ha : status ≠ .active) : (p.withEnded frames).scene = p.scene.ended status := by
  have h₀ : (p.stack.withInward frames).status 0 = status :=
    status_zero_of_forall (by simpa) (by simpa)
  simp only [scene, stack_withEnded, h₀, Stack.inward_withInward,
    live_of_forall_not fun f hf => h f hf ▸ ha]
  rfl

namespace Sound

variable (hs : p.Sound settings n)

include hs

theorem withInward (hb : frames ≠ []) (hl : frames.length = p.stack.inward.length)
    (hf : Standing frames) (h₀ : (p.stack.withInward frames).status 0 = p.stack.status 0) :
    (p.withInward frames).Sound settings n where
  settings_eq := hs.settings_eq
  nesting_eq := hs.nesting_eq
  bottom := by simpa
  standing := by simpa
  aligned := by simpa [hl, h₀] using hs.aligned
  connected := by
    rw [stack_withInward, h₀]
    exact hs.connected
  counted := hs.counted

theorem withEnded (hb : frames ≠ []) (hl : frames.length = p.stack.inward.length)
    (hf : ∀ f ∈ frames, f.status = status) (ha : status ≠ .active) :
    (p.withEnded frames).Sound settings n where
  settings_eq := hs.settings_eq
  nesting_eq := hs.nesting_eq
  bottom := by simpa
  standing := .inr <| by simpa using fun f h => hf f h ▸ ha
  aligned := by
    have h₀ : (p.stack.withInward frames).status 0 = status :=
      status_zero_of_forall (by simpa) (by simpa)
    simpa [hl, h₀, ha] using hs.aligned.imp_right And.left
  connected := by
    have h₀ : (p.stack.withInward frames).status 0 = status :=
      status_zero_of_forall (by simpa) (by simpa)
    simp [h₀, ha]
    rfl
  counted := hs.counted

end Sound

namespace Ready

variable (h : p.Ready n k outer f below)

include h

theorem map_snd_live : p.scene.live.map Prod.snd = p.stack.inward := by
  simp [h.live_eq, h.frames, List.map_snd_zip (Nat.le_of_eq h.depth)]

theorem rollbackHooks_eq :
    p.scene.rollbackHooks = p.stack.inward.flatMap (·.onRollback) := by
  rw [← h.map_snd_live, List.flatMap_map]
  rfl

theorem due_eq (effective : Isolation → Isolation) :
    p.scene.due effective = p.stack.due effective := by
  have hl : p.stack.frames = (p.scene.live.map Prod.snd).reverse := by
    simp [h.map_snd_live, Stack.inward]
  simp only [Scene.due, Stack.due, hl, ← List.map_reverse, List.filterMap_map]
  rfl

theorem abortControls_eq : p.stack.abortControls = p.scene.whole .rollback := by
  simp [Stack.abortControls, Scene.whole, h.status_zero_eq, scene]

theorem status_of_mem_rolledBack :
    ∀ g ∈ p.stack.inward.map Frame.rolledBack, g.status = .rolledBack := by
  simp only [List.forall_mem_map, h.frames]
  exact fun g hg => by simp [Frame.rolledBack, h.active g hg]

theorem sound_rolledBack (hs : p.Sound settings n) : p.rolledBack.Sound settings n :=
  hs.withEnded (by simpa using hs.bottom) (by simp) h.status_of_mem_rolledBack (by simp)

theorem scene_rolledBack : p.rolledBack.scene = p.scene.ended .rolledBack :=
  scene_withEnded (by simp [h.frames]) h.status_of_mem_rolledBack (by simp)

theorem aborting (ha : Aborting n p.transaction es t') :
    ∃ es₁ r, Tried n (p.scene.whole .rollback) es₁ r ∧
      es = es₁ ++ hookEvents p.scene.rollbackHooks ∧ p.withTransaction t' = p.rolledBack := by
  cases ha
  case intro es₁ r hr =>
    rw [Stack.aborted, Stack.rolledBackFrom_zero]
    exact ⟨es₁, r, h.abortControls_eq ▸ hr, by rw [h.rollbackHooks_eq], rfl⟩

end Ready

def prepared (p : Point) : Point :=
  p.withTransaction { p.transaction with stack := p.stack.prepared }

@[simp]
theorem stack_prepared (p : Point) : p.prepared.stack = p.stack.prepared :=
  rfl

namespace Ready

variable (h : p.Ready n k outer f below)

include h

theorem prepared : p.prepared.Ready n k outer f.established (below.map Frame.established) where
  path := h.path
  frames := by simp [h.frames]
  depth := by simp [h.depth]
  active := by
    rw [← List.map_cons, List.forall_mem_map]
    exact h.active
  connection := h.connection

theorem scene_prepared : p.prepared.scene = p.scene.prepared := by
  have hz : p.prepared.stack.status 0 = p.stack.status 0 := by
    rw [h.prepared.status_zero_eq, h.status_zero_eq]
  have hl : p.prepared.scene.live = p.scene.prepared.live := by
    simp [h.prepared.live_eq, Scene.prepared, h.live_eq, List.zip_map_right]
  exact Scene.mk.injEq .. ▸ ⟨hz, rfl, rfl, rfl, rfl, hl⟩

theorem sound_prepared (hs : p.Sound settings n) : p.prepared.Sound settings n :=
  h.prepared.sound hs.settings_eq hs.nesting_eq hs.counted

end Ready

end Point

end PolySql
