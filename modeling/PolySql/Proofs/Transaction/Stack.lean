import Mathlib.Tactic.Common
import PolySql.Transaction.Stack

namespace PolySql

def Frame.register (f : Frame) (onCommit onRollback : List String) : Frame :=
  { f with onCommit := f.onCommit ++ onCommit, onRollback := f.onRollback ++ onRollback }

namespace Stack

-- The frame that may act.
structure Open (s : Stack) (depth : Nat) : Prop where
  active : s.status depth = .active
  innermost : depth = s.top

def prepared (s : Stack) : Stack :=
  { s with begun := true, frames := s.frames.map Frame.established }

def committing (s : Stack) (depth : Nat) : List Control :=
  if depth = 0 then if s.begun then [.commit] else []
  else (s.created? depth).toList.map (.release ·.name)

def rollingBack (s : Stack) (depth : Nat) : List Control :=
  if s.rollsBackEverything depth then if s.begun then [.rollback] else []
  else (s.created? depth).toList.map (.rollbackTo ·.name)

variable {s : Stack} {depth : Nat}

-- The frames from the innermost one on.
def inward (s : Stack) : List Frame :=
  s.frames.reverse

def withInward (s : Stack) (frames : List Frame) : Stack :=
  { s with frames := frames.reverse }

@[simp]
theorem inward_withInward (s : Stack) (frames : List Frame) :
    (s.withInward frames).inward = frames := by
  simp [inward, withInward]

@[simp]
theorem inward_prepared (s : Stack) : s.prepared.inward = s.inward.map Frame.established := by
  simp [inward, prepared]

theorem check_of_open (h : s.Open depth) (operation : String) : s.check depth operation = .ok () := by
  simp [check, h.active, h.innermost.symm]

theorem check_of_not_open (h : ¬s.Open depth) (operation : String) :
    ∃ e, s.check depth operation = .error e := by
  unfold check
  split
  · exact ⟨_, rfl⟩
  · split
    · exact ⟨_, rfl⟩
    · exact absurd ⟨not_not.mp ‹_›, not_not.mp ‹_›⟩ h

theorem open_of_check_bind {α : Type} {a : α} {f : Unit → Result α}
    (h : (s.check depth operation >>= f) = .ok a) : s.Open depth := by
  by_contra ho
  have ⟨e, he⟩ := check_of_not_open ho operation
  rw [he] at h
  nomatch h

theorem open_of_onCommit (h : s.onCommit depth hook = .ok s') : s.Open depth :=
  open_of_check_bind h

theorem open_of_onRollback (h : s.onRollback depth hook = .ok s') : s.Open depth :=
  open_of_check_bind h

theorem open_of_push (h : s.push depth = .ok s') : s.Open depth :=
  open_of_check_bind h

-- Settings are those of an outermost transaction that has not begun.
structure Settable (s : Stack) (depth : Nat) : Prop where
  is_open : s.Open depth
  outermost : depth = 0
  not_begun : s.begun = false

theorem settable_of_checkSettings (h : s.checkSettings depth operation = .ok ()) :
    s.Settable depth := by
  have ho : s.Open depth := open_of_check_bind h
  rw [checkSettings, check_of_open ho] at h
  by_cases hd : depth = 0 <;> cases hb : s.begun
  case pos.false => exact ⟨ho, hd, hb⟩
  all_goals simp_all [bind, Except.bind, Nat.pos_iff_ne_zero, throw, throwThe, MonadExceptOf.throw]

theorem of_setIsolation (h : s.setIsolation depth level = .ok s') :
    s.Settable depth ∧ s' = { s with isolation := some level } := by
  cases hc : s.checkSettings depth "set the isolation level"
  case error => simp [setIsolation, hc, bind, Except.bind] at h
  case ok =>
    simp only [setIsolation, hc, bind, Except.bind, pure, Except.pure, Except.ok.injEq] at h
    exact ⟨settable_of_checkSettings hc, h.symm⟩

theorem of_setReadOnly (h : s.setReadOnly depth b = .ok s') :
    s.Settable depth ∧ s' = { s with readOnly := b } := by
  cases hc : s.checkSettings depth "set the access mode"
  case error => simp [setReadOnly, hc, bind, Except.bind] at h
  case ok =>
    simp only [setReadOnly, hc, bind, Except.bind, pure, Except.pure, Except.ok.injEq] at h
    exact ⟨settable_of_checkSettings hc, h.symm⟩

theorem prepare_of_open (h : s.Open depth) (effective : Isolation → Isolation)
    (operation : String) :
    s.prepare effective depth operation = .ok (s.due effective, s.prepared) := by
  rw [prepare, check_of_open h]
  rfl

theorem prepare_of_not_open (h : ¬s.Open depth) (effective : Isolation → Isolation)
    (operation : String) : ∃ e, s.prepare effective depth operation = .error e := by
  have ⟨e, he⟩ := check_of_not_open h operation
  exact ⟨e, by rw [prepare, he]; rfl⟩

theorem commitControls_of_open (h : s.Open depth) :
    s.commitControls depth = .ok (s.committing depth) := by
  simp only [commitControls, check_of_open h, committing]
  by_cases h₀ : depth = 0 <;> simp only [h₀] <;> rfl

theorem commitControls_of_not_open (h : ¬s.Open depth) :
    ∃ e, s.commitControls depth = .error e := by
  have ⟨e, he⟩ := check_of_not_open h "commit"
  exact ⟨e, by rw [commitControls, he]; rfl⟩

theorem rollbackControls_of_open (h : s.Open depth) :
    s.rollbackControls depth = .ok (s.rollingBack depth) := by
  simp only [rollbackControls, check_of_open h, rollingBack]
  by_cases h₀ : s.rollsBackEverything depth <;> simp only [h₀] <;> rfl

theorem rollbackControls_of_not_open (h : ¬s.Open depth) :
    ∃ e, s.rollbackControls depth = .error e := by
  have ⟨e, he⟩ := check_of_not_open h "roll back"
  exact ⟨e, by rw [rollbackControls, he]; rfl⟩

theorem modify_length_append (g : Frame → Frame) (l : List Frame) :
    (l ++ f :: r).modify l.length g = l ++ g f :: r := by
  induction l <;> simp_all

section

variable (h : s.inward = f :: below)

include h

theorem frames_eq : s.frames = below.reverse ++ [f] := by
  simpa [inward] using congrArg List.reverse h

theorem top_eq : s.top = below.length := by
  simp [top, frames_eq h]

theorem status_length : s.status below.length = f.status := by
  simp [status, frames_eq h]

theorem open_length_iff : s.Open below.length ↔ f.status = .active where
  mp o := status_length h ▸ o.active
  mpr a := ⟨(status_length h).trans a, (top_eq h).symm⟩

theorem created?_length : s.created? below.length = f.createdSavepoint? := by
  simp [created?, frames_eq h]

theorem onCommit_length (hook : String) (ho : s.Open below.length) :
    s.onCommit below.length hook = .ok (s.withInward (f.register [hook] [] :: below)) := by
  have := modify_length_append (f := f) (r := [])
    (fun f => { f with onCommit := f.onCommit ++ [hook] }) below.reverse
  rw [onCommit, check_of_open ho]
  simp_all [frames_eq h, withInward, Frame.register, bind, Except.bind, pure, Except.pure]

theorem onRollback_length (hook : String) (ho : s.Open below.length) :
    s.onRollback below.length hook = .ok (s.withInward (f.register [] [hook] :: below)) := by
  have := modify_length_append (f := f) (r := [])
    (fun f => { f with onRollback := f.onRollback ++ [hook] }) below.reverse
  rw [onRollback, check_of_open ho]
  simp_all [frames_eq h, withInward, Frame.register, bind, Except.bind, pure, Except.pure]

theorem committed_nil (hb : below = []) :
    s.committed 0 = (f.onCommit, s.withInward [f.committed]) := by
  simp [committed, frames_eq h, hb, withInward]

theorem committed_cons (hb : below = g :: rest) :
    s.committed below.length = ([], s.withInward (f.committed :: g.inherit f :: rest)) := by
  subst hb
  have := modify_length_append (f := g) (r := [f.committed]) (·.inherit f) rest.reverse
  simp_all [committed, frames_eq h, withInward]

theorem pop_length (hb : below ≠ []) : s.pop below.length = s.withInward below := by
  have : 0 < below.length := List.length_pos_iff.mpr hb
  simp [pop, top_eq h, this, withInward, frames_eq h]

theorem rolledBackFrom_length :
    s.rolledBackFrom below.length = (f.onRollback, s.withInward (f.rolledBack :: below)) := by
  simp [rolledBackFrom, frames_eq h, withInward]

end

theorem exists_frames (ho : s.Open depth) : ∃ f below, s.inward = f :: below ∧ depth = below.length := by
  cases hi : s.inward
  case nil =>
    have hn : s.frames = [] := List.reverse_eq_nil_iff.mp hi
    have ha := ho.active
    simp [status, hn] at ha
  case cons f below => exact ⟨f, below, rfl, ho.innermost.trans (top_eq hi)⟩

theorem pop_zero : s.pop 0 = s := by
  simp [pop]

theorem rolledBackFrom_zero :
    s.rolledBackFrom 0 =
      (s.inward.flatMap (·.onRollback), s.withInward (s.inward.map Frame.rolledBack)) := by
  simp [rolledBackFrom, inward, withInward]

theorem status_rolledBackFrom_ne_active (h : lowest ≤ depth) :
    (s.rolledBackFrom lowest).2.status depth ≠ .active := by
  have hl : (s.frames.take lowest).length ≤ depth := by
    rw [List.length_take]
    exact Nat.le_trans (Nat.min_le_left ..) h
  simp only [rolledBackFrom, status, List.getElem?_append_right hl, List.getElem?_map]
  cases (s.frames.drop lowest)[depth - (s.frames.take lowest).length]?
  case none => simp
  case some f => cases hf : f.status <;> simp [Frame.rolledBack, hf]

theorem status_committed_ne_active (h : s.status depth = .active) :
    (s.committed depth).2.status depth ≠ .active := by
  cases hf : s.frames[depth]?
  case none => simp [status, hf] at h
  case some f =>
    have hl : depth < s.frames.length := (List.getElem?_eq_some_iff.mp hf).1
    by_cases hd : depth = 0
    case pos => simp_all [committed, status, Frame.committed]
    case neg =>
      have hne : depth - 1 ≠ depth := by omega
      simp [committed, hd, status, hne, hl, Frame.committed]

theorem status_aborted (h : s.status 0 = .active) : s.aborted.2.status 0 = .rolledBack := by
  cases hf : s.frames
  case nil => simp [status, hf] at h
  case cons f rest => simp_all [aborted, rolledBackFrom, status, Frame.rolledBack]

theorem push_eq (ho : s.Open depth) :
    s.push depth = .ok (match s.nesting with
      | .savepoints =>
        { s.withInward (.opened (some ⟨s.savepointCount + 1, false⟩) :: s.inward) with
          savepointCount := s.savepointCount + 1 }
      | .flat => s.withInward (.opened none :: s.inward)) := by
  simp only [push, check_of_open ho]
  cases hn : s.nesting <;> simp [withInward, inward, hn, bind, Except.bind, pure, Except.pure]

end Stack

end PolySql
