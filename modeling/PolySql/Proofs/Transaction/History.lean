import PolySql.Proofs.Transaction.Conduct

namespace PolySql

namespace Point

variable {settings : TransactionSettings} {n : Nat} {m : Move} {p : Point} {stack : Stack}

-- A frame is opened inside the innermost one.
def pushed (p : Point) (stack : Stack) : Point :=
  ⟨{ p.transaction with stack := stack }, p.opened :: p.path, p.opened + 1⟩

-- The innermost frame is forgotten.
def popped (p : Point) : Point :=
  ⟨{ p.transaction with stack := p.stack.pop (p.path.length - 1) }, p.path.tail, p.opened⟩

namespace Ready

variable (h : p.Ready n k outer f below) (hs : p.Sound settings n)

include h hs

theorem push_eq (hc : p.stack.push outer.length = .ok stack) :
    stack.inward = .opened (settings.nesting.savepoint p.opened) :: f :: below ∧
      stack.nesting = settings.nesting ∧
      stack = { p.stack with frames := stack.frames, savepointCount := stack.savepointCount } ∧
      (settings.nesting = .savepoints → p.opened + 1 = stack.savepointCount + 1) := by
  rw [Stack.push_eq h.is_open, h.frames, hs.nesting_eq] at hc
  cases hn : settings.nesting
  case savepoints =>
    rw [hn] at hc
    cases hc
    have hc := hs.counted hn
    exact ⟨by simp [Nesting.savepoint, hc, Stack.inward, Stack.withInward], hs.nesting_eq.trans hn, rfl,
      fun _ => by rw [hc]⟩
  case flat =>
    rw [hn] at hc
    cases hc
    exact ⟨by simp [Nesting.savepoint], hs.nesting_eq.trans hn, rfl, fun h => absurd h (by simp)⟩

theorem pushed (hc : p.stack.push outer.length = .ok stack) :
    (p.pushed stack).Ready n p.opened p.path (.opened (settings.nesting.savepoint p.opened))
      (f :: below) where
  path := rfl
  frames := (h.push_eq hs hc).1
  depth := by simp [h.path, h.depth]
  active := List.forall_mem_cons.mpr ⟨rfl, h.active⟩
  connection := h.connection

end Ready

namespace Sound

variable (hs : p.Sound settings n) (hp : p.path = k :: outer)

include hs hp

theorem leads_of_push (hc : p.stack.push outer.length = .ok stack) :
    Leads settings n m p [] (p.pushed stack) ∧ stack.top = p.path.length := by
  have ⟨f, below, h⟩ := hs.ready hp (Stack.open_of_push hc)
  have ⟨hi, hn, he, hcnt⟩ := h.push_eq hs hc
  have hr := h.pushed hs hc
  have hl : (p.pushed stack).scene = p.scene.push settings.nesting := by
    have hz : (p.pushed stack).stack.status 0 = p.stack.status 0 := by
      rw [hr.status_zero_eq, h.status_zero_eq]
    have hlive : (p.pushed stack).scene.live = (p.scene.push settings.nesting).live := by
      rw [hr.live_eq, h.path, List.zip_cons_cons, ← h.live_eq]
      rfl
    refine Scene.mk.injEq .. ▸ ⟨hz, ?_, ?_, ?_, rfl, hlive⟩
    all_goals
      rw [Point.stack, Point.pushed, he]
      rfl
  refine ⟨h.leads (hr.sound hs.settings_eq hn hcnt) hl (.opened (by simp [h.live_eq])), ?_⟩
  rw [Stack.top_eq hi, h.path, List.length_cons, List.length_cons, h.depth]

-- The innermost frame may be forgotten once it has ended.
theorem popped (ha : p.stack.status outer.length ≠ .active) :
    p.popped.Sound settings n ∧ p.popped.scene = p.scene := by
  have ⟨f, below, hf, hl⟩ := hs.exists_frames hp
  have hfa : f.status ≠ .active := by rwa [← hl, Stack.status_length hf] at ha
  have hd : p.path.length - 1 = below.length := by simp [hp, hl]
  cases hb : below
  case nil =>
    have ho : outer = [] := List.length_eq_zero_iff.mp (by rw [← hl, hb]; rfl)
    have hpop : p.popped = { p with path := [] } := by
      simp [Point.popped, Stack.pop_zero, hp, ho]
    have hz : p.stack.status 0 ≠ .active := by rwa [status_zero_of_nil (hb ▸ hf)]
    rw [hpop]
    refine ⟨{ hs with aligned := .inr ⟨rfl, hz⟩ }, ?_⟩
    rw [Point.scene, Point.scene, hp, hf, hb, ho, live_cons_not hfa]
    rfl
  case cons g rest =>
    have hne : below ≠ [] := by simp [hb]
    have hpop : p.popped = { p.withInward below with path := outer } := by
      rw [Point.popped, hd, Stack.pop_length hf hne, hp, List.tail_cons]
      rfl
    have hin : (p.popped).stack.inward = below := by
      rw [hpop]
      exact Stack.inward_withInward _ _
    have hst : Standing below := by
      have := hs.standing
      simp only [Standing, hf, List.tail_cons, List.forall_mem_cons] at this
      exact this.imp (fun h x hx => h x (List.mem_of_mem_tail hx)) (·.2)
    have hz : (p.popped).stack.status 0 = p.stack.status 0 := by
      rw [status_zero, status_zero, hin, hf, List.getLast?_cons_of_ne_nil hne]
    constructor
    · rw [hpop] at hin hz ⊢
      exact {
        settings_eq := hs.settings_eq
        nesting_eq := hs.nesting_eq
        bottom := by rwa [hin]
        standing := by rwa [hin]
        aligned := .inl (by rw [hin]; exact hl.symm)
        connected := by
          rw [hz]
          exact hs.connected
        counted := hs.counted }
    · rw [Point.scene, hz, hin, Point.scene, hp, hf, live_cons_not hfa, hpop]
      rfl

end Sound

end Point

namespace Tx

variable {ρ : Type} {s : Session ρ}

theorem exec_nested (depth : Nat) :
    exec (Handle.nested ⟨depth, false⟩) s = match s.transaction.stack.push depth with
      | .ok stack => (.ok ⟨stack.top, false⟩, s.withStack stack)
      | .error e => (.error e, s) := by
  have he : exec (Handle.enter ⟨depth, false⟩) s = (.ok (), s) := rfl
  rw [Handle.nested, exec_bind_of_ok he, exec_bind, exec_change]
  cases s.transaction.stack.push depth <;> rfl

theorem status_exec_rollback (ht : depth = s.transaction.stack.top)
    (hc : s.transaction.stack.Open depth → s.transaction.connection = some n) :
    (exec (rollback depth) s).2.transaction.stack.status depth ≠ .active := by
  by_cases h : s.transaction.stack.status depth = .active
  case pos =>
    have ⟨es, r, s', he, _, hr⟩ := exec_rollback hc
    rw [he]
    exact hr.status_ne_active ⟨h, ht⟩
  case neg => rwa [exec_rollback_of_not_active h]

theorem status_exec_commit (ht : depth = s.transaction.stack.top)
    (hc : s.transaction.stack.Open depth → s.transaction.connection = some n) :
    (exec (commit depth) s).2.transaction.stack.status depth ≠ .active := by
  obtain ⟨es, r, s', he, -, hr⟩ := exec_commit hc
  rw [he]
  by_cases h : s.transaction.stack.status depth = .active
  case pos => exact hr.status_ne_active ⟨h, ht⟩
  case neg =>
    have hn : ¬s.transaction.stack.Open depth := fun ho => h ho.active
    generalize s'.transaction = t at hr
    cases hr
    case refused => exact h
    case outermost ho _ _ | inner ho _ _ | outermostFailed ho _ _ _ | innerFailed ho _ _ _ =>
      exact absurd ho hn

theorem exec_drop (depth : Nat) :
    exec (Handle.drop ⟨depth, false⟩) s = (.ok (),
      (exec (rollback depth) s).2.withStack
        ((exec (rollback depth) s).2.transaction.stack.pop depth)) :=
  exec_discard depth

end Tx

-- One outermost transaction in use: its session, the numbers of the frames whose handles are open,
-- innermost first, how many frames there have been, and the marks that were left.
structure History where
  session : Session Notes
  path : List Nat
  opened : Nat
  log : Log

namespace History

open Tx

def start (settings : TransactionSettings) (connection : Nat) (world : World Notes) : History :=
  ⟨⟨.new settings connection, world⟩, [0], 1, []⟩

def point (h : History) : Point :=
  ⟨h.session.transaction, h.path, h.opened⟩

-- What has happened since, with marks after it.
def advance (h : History) (m : Move) (s : Session Notes) (marks : List Mark) : History :=
  let es := s.world.trace.drop h.session.world.trace.length
  { h with session := s, log := h.log ++ m.log h.path (es.map .event ++ marks) }

def everything (h : History) : Bool :=
  h.session.transaction.settings.nesting.everything (h.path.length - 1)

-- A handle is used until it is dropped, and only then the one around it again. Nothing can be done once
-- all are dropped.
def perform (h : History) (m : Move) : History :=
  if h.path = [] then h
  else
    let handle : Handle := ⟨h.path.length - 1, false⟩
    match m with
    | .nested =>
      let (r, s) := exec handle.nested h.session
      if r.toBool then { h with session := s, path := h.opened :: h.path, opened := h.opened + 1 }
      else h.advance m s []
    | .step step =>
      let (r, s) := exec (step.plain handle) h.session
      let nesting := h.session.transaction.settings.nesting
      h.advance m s (step.marks nesting handle.depth r.toBool)
    | .drop =>
      let accepted := (exec (Tx.rollback handle.depth) h.session).1.toBool
      let h' := h.advance m (exec handle.drop h.session).2
        (Mark.rolledBack.upon (h.everything && accepted))
      { h' with path := h.path.tail }
    | .note notes =>
      { h with session := { h.session with
        world := { h.session.world with application := notes } } }

def run (h : History) (moves : List Move) : History :=
  moves.foldl perform h

-- The log tells all that has happened, and how the transaction stands follows from it.
structure Sound (settings : TransactionSettings) (n : Nat) (world : World Notes) (h : History) :
    Prop where
  point : h.point.Sound settings n
  reached : Reached settings n h.point.scene h.log
  trace : h.session.world.trace = world.trace ++ h.log.events

section

variable {settings : TransactionSettings} {n : Nat} {world : World Notes} {h : History}

theorem event?_upon (m : Mark) (hm : m.event? = none) (accepted : Bool) :
    (m.upon accepted).filterMap Mark.event? = [] := by
  cases accepted <;> simp [hm]

theorem event?_marks (step : Step) (nesting : Nesting) (depth : Nat) (accepted : Bool) :
    (step.marks nesting depth accepted).filterMap Mark.event? = [] := by
  cases step
  case commit | rollback | onCommit | onRollback | setIsolation | setReadOnly =>
    exact event?_upon _ rfl _
  all_goals rfl

theorem sound_start : (start settings n world).Sound settings n world where
  point := Point.sound_start
  reached := .start
  trace := (List.append_nil _).symm

namespace Sound

variable (hs : h.Sound settings n world)

include hs

theorem advance (hw : s.world.trace = h.session.world.trace ++ es)
    (hm : marks.filterMap Mark.event? = [])
    (hl : Point.Leads settings n m h.point (es.map .event ++ marks)
      (h.point.withTransaction s.transaction)) :
    (h.advance m s marks).Sound settings n world := by
  have hd : s.world.trace.drop h.session.world.trace.length = es := by simp [hw]
  constructor
  case point => exact hl.sound
  case reached =>
    rw [History.advance, hd]
    exact hl.reached hs.reached
  case trace =>
    rw [History.advance, hd, Log.events_append, Move.events_log, List.filterMap_append, hm,
      Mark.filterMap_event, List.append_nil, ← List.append_assoc, ← hs.trace]
    exact hw

theorem nested (hp : h.path = k :: outer) : (h.perform .nested).Sound settings n world := by
  have hd : h.path.length - 1 = outer.length := by simp [hp]
  rw [perform, if_neg (by simp [hp]), hd]
  dsimp only
  rw [exec_nested]
  cases hc : h.session.transaction.stack.push outer.length
  case error =>
    have hw : h.session.world.trace = h.session.world.trace ++ [] := (List.append_nil _).symm
    exact hs.advance hw rfl (.refl hs.point)
  case ok stack =>
    have ⟨hl, _⟩ := hs.point.leads_of_push hp (m := .nested) hc
    have hr := hl.reached hs.reached
    rw [Move.log, List.map_nil, List.append_nil] at hr
    exact ⟨hl.sound, hr, hs.trace⟩

theorem step (hp : h.path = k :: outer) (step : Step) :
    (h.perform (.step step)).Sound settings n world := by
  have hd : h.path.length - 1 = outer.length := by simp [hp]
  rw [perform, if_neg (by simp [hp]), hd]
  dsimp only
  have ⟨es, hw, hl⟩ := Leaves.plain (n := n) step h.session h.point hs.point hp rfl
  have hst : h.session.transaction.settings = settings := hs.point.settings_eq
  rw [hst]
  exact hs.advance hw (event?_marks ..) hl

theorem popped (hp : h.path = k :: outer)
    (ha : h.session.transaction.stack.status outer.length ≠ .active) :
    Sound settings n world { h with
      session := h.session.withStack (h.session.transaction.stack.pop outer.length)
      path := outer } := by
  have ⟨hsound, hscene⟩ := hs.point.popped hp ha
  have hd : h.path.length - 1 = outer.length := by simp [hp]
  have he : h.point.popped =
      ⟨{ h.session.transaction with stack := h.session.transaction.stack.pop outer.length },
        outer, h.opened⟩ := by
    rw [Point.popped, History.point, hd, hp, List.tail_cons]
  rw [he] at hsound hscene
  exact ⟨hsound, hscene ▸ hs.reached, hs.trace⟩

theorem drop (hp : h.path = k :: outer) : (h.perform .drop).Sound settings n world := by
  have hd : h.path.length - 1 = outer.length := by simp [hp]
  have hst : h.session.transaction.settings = settings := hs.point.settings_eq
  rw [perform, if_neg (by simp [hp]), hd, everything, hd, hst]
  dsimp only
  rw [exec_drop]
  have ⟨es, hw, hl⟩ := Leaves.rollback (n := n) (m := .drop) h.session h.point hs.point hp rfl
  have hadv := hs.advance hw (event?_upon _ rfl _) hl
  have ⟨f, below, hf, hlen⟩ := hs.point.exists_frames hp
  have ht : outer.length = h.session.transaction.stack.top := hlen ▸ (Stack.top_eq hf).symm
  have hp' := hadv.popped hp (status_exec_rollback ht (hs.point.connection_of_open hp))
  rw [hp, List.tail_cons]
  exact hp'

theorem perform (m : Move) : (h.perform m).Sound settings n world := by
  cases hp : h.path
  case nil =>
    rw [History.perform, if_pos hp]
    exact hs
  case cons k outer =>
    cases m
    case nested => exact hs.nested hp
    case step step => exact hs.step hp step
    case drop => exact hs.drop hp
    case note notes =>
      rw [History.perform, if_neg (by simp [hp])]
      exact ⟨hs.point, hs.reached, hs.trace⟩

theorem run (moves : List Move) : (h.run moves).Sound settings n world := by
  induction moves generalizing h
  case nil => exact hs
  case cons m rest ih => exact ih (hs.perform m)

theorem events_eq : h.session.world.trace.drop world.trace.length = h.log.events := by
  rw [hs.trace, List.drop_left]

omit hs in
theorem live_eq_nil (hp : h.path = []) : h.point.scene.live = [] := by
  simp [Point.scene, Point.live, History.point, hp]

theorem status_ne_active (hp : h.path = []) : h.session.transaction.stack.status 0 ≠ .active := by
  refine (hs.point.aligned.resolve_left fun hl => hs.point.bottom ?_).2
  exact List.length_eq_zero_iff.mp (hl ▸ List.length_eq_zero_iff.mpr hp)

-- The connection is given back once the outermost handle is dropped.
theorem disconnected (hp : h.path = []) : h.session.transaction.connection = none :=
  hs.point.connected.trans (if_neg (hs.status_ne_active hp))

end Sound

theorem sound_run (moves : List Move) :
    ((start settings n world).run moves).Sound settings n world :=
  sound_start.run moves

end

end History

end PolySql
