import PolySql.Proofs.Transaction.Scene

namespace PolySql

-- What becomes of the open frames: their numbers, innermost first, and how many there have been.
inductive Turn : List Nat → Nat → List Mark → List Nat → Nat → Prop
  | opened : path ≠ [] → Turn path n [] (n :: path) (n + 1)
  | stayed : path ≠ [] → .committed ∉ marks → Turn path n marks path n
  | merged :
    .committed ∉ marks → Turn (k :: j :: rest) n (marks ++ [.committed]) (j :: rest) n
  | undone : .committed ∉ marks → Turn (k :: j :: rest) n marks (j :: rest) n
  | committed : .committed ∉ marks → Turn [k] n (marks ++ [.committed]) [] n
  | rolledBack : path ≠ [] → .committed ∉ marks → Turn path n marks [] n

-- Frames are numbered as they are opened, from the outermost one on.
structure Numbered (path : List Nat) (opened : Nat) : Prop where
  below : ∀ k ∈ path, k < opened
  descending : path.Pairwise (· > ·)
  last : path ≠ [] → path.getLast? = some 0

namespace Numbered

theorem start : Numbered [0] 1 where
  below := by simp
  descending := by simp
  last := by simp

theorem nil : Numbered [] opened where
  below := by simp
  descending := by simp
  last := by simp

theorem tail (h : Numbered (k :: j :: rest) opened) : Numbered (j :: rest) opened where
  below := (List.forall_mem_cons.mp h.below).2
  descending := (List.pairwise_cons.mp h.descending).2
  last _ := by simpa using h.last

theorem cons (h : Numbered path opened) (hp : path ≠ []) :
    Numbered (opened :: path) (opened + 1) where
  below := List.forall_mem_cons.mpr
    ⟨Nat.lt_succ_self _, fun k hk => Nat.lt_succ_of_lt (h.below k hk)⟩
  descending := List.pairwise_cons.mpr ⟨h.below, h.descending⟩
  last _ := by
    rw [List.getLast?_cons_of_ne_nil hp]
    exact h.last hp

theorem turn (h : Numbered path opened) (ht : Turn path opened marks path' opened') :
    Numbered path' opened' := by
  cases ht
  case opened hp => exact h.cons hp
  case stayed => exact h
  case merged | undone => exact h.tail
  case committed | rolledBack => exact nil

theorem opened_pos (h : Numbered path opened) (hp : path ≠ []) : 0 < opened :=
  h.below 0 (List.mem_of_getLast? (h.last hp))

theorem eq_zero (h : Numbered [k] opened) : k = 0 := by
  simpa using h.last

theorem lt_head (h : Numbered (k :: rest) opened) (hi : i ∈ rest) : i < k :=
  (List.pairwise_cons.mp h.descending).1 i hi

theorem ne_zero (h : Numbered (k :: j :: rest) opened) : k ≠ 0 :=
  Nat.ne_zero_of_lt (h.lt_head List.mem_cons_self)

end Numbered

-- The number of the savepoint of a frame. The outermost one has none.
def Nesting.number (nesting : Nesting) (k : Nat) : Option Nat :=
  match nesting with
  | .savepoints => if k = 0 then none else some k
  | .flat => none

theorem Frame.number?_established (f : Frame) : f.established.number? = f.number? := by
  simp [number?, established, Function.comp_def]

theorem Nesting.number?_opened (nesting : Nesting) (h : 0 < k) :
    (Frame.opened (nesting.savepoint k)).number? = nesting.number k := by
  cases nesting
  case savepoints => simp [Frame.number?, Frame.opened, Nesting.savepoint, Nesting.number, Nat.ne_of_gt h]
  case flat => rfl

theorem Scene.path_ne_nil {s : Scene} : s.path ≠ [] ↔ s.live ≠ [] := by
  simp [path]

theorem Scene.path_eq_cons {s : Scene} (h : s.live = (k, f) :: rest) :
    s.path = k :: rest.map Prod.fst := by
  rw [path, h]
  rfl

theorem Scene.path_prepared (s : Scene) : s.prepared.path = s.path := by
  simp [path, prepared]

-- Savepoints are numbered like their frames.
def Scene.Saved (nesting : Nesting) (s : Scene) : Prop :=
  ∀ x ∈ s.live, x.2.number? = nesting.number x.1

theorem Scene.Saved.prepared {s : Scene} (h : s.Saved nesting) : s.prepared.Saved nesting := by
  rw [Saved, Scene.prepared, List.forall_mem_map]
  exact fun x hx => x.2.number?_established.trans (h x hx)

section

variable {settings : TransactionSettings} {n : Nat} {m : Move} {s s' : Scene}

theorem Crucial.opened_eq (h : Crucial settings m s told controls s') : s'.opened = s.opened := by
  cases h <;> rfl

theorem Shift.live_ne_nil (h : Shift settings n m s marks s') : s.live ≠ [] := by
  cases h <;> simp_all

theorem Shift.turn (h : Shift settings n m s marks s') :
    Turn s.path s.opened marks s'.path s'.opened := by
  cases h
  case opened hl => exact .opened (Scene.path_ne_nil.mpr hl)
  case isolation hl _ => exact .stayed (by simp [Scene.path, hl]) (by simp)
  case readOnly hl _ => exact .stayed (by simp [Scene.path, hl]) (by simp)
  case onCommit hl =>
    simp only [Scene.path, hl]
    exact .stayed (by simp) (by simp)
  case onRollback hl =>
    simp only [Scene.path, hl]
    exact .stayed (by simp) (by simp)
  case ran hl _ _ _ =>
    rw [s.path_prepared]
    exact .stayed (Scene.path_ne_nil.mpr hl) (by simp)
  case committed hl _ =>
    simp only [Scene.path, hl]
    exact .committed (by simp)
  case merged hl _ =>
    simp only [Scene.path, hl]
    exact .merged (by simp)
  case unreleased hl _ => exact .stayed (by simp [Scene.path, hl]) (by simp)
  case rolledBack hl _ _ => exact .rolledBack (Scene.path_ne_nil.mpr hl) (by simp)
  case undone hl _ _ =>
    simp only [Scene.path, hl]
    exact .undone (by simp)
  case aborted hl hc _ _ =>
    rw [Scene.ended, hc.opened_eq]
    exact .rolledBack (Scene.path_ne_nil.mpr hl) (by simp)

theorem Scene.Saved.shift (h : s.Saved settings.nesting) (hn : Numbered s.path s.opened)
    (ht : Shift settings n m s marks s') : s'.Saved settings.nesting := by
  cases ht
  case opened hl =>
    have hp := hn.opened_pos (Scene.path_ne_nil.mpr hl)
    exact List.forall_mem_cons.mpr ⟨Nesting.number?_opened _ hp, h⟩
  case isolation | readOnly | unreleased => exact h
  case onCommit hl | onRollback hl =>
    rw [Saved, hl, List.forall_mem_cons] at h
    exact List.forall_mem_cons.mpr h
  case merged hl _ =>
    rw [Saved, hl, List.forall_mem_cons, List.forall_mem_cons] at h
    exact List.forall_mem_cons.mpr h.2
  case undone hl _ _ =>
    rw [Saved, hl, List.forall_mem_cons] at h
    exact h.2
  case ran => exact h.prepared
  case committed | rolledBack | aborted => exact fun _ hx => nomatch hx

theorem Reached.numbered (h : Reached settings n s log) : Numbered s.path s.opened := by
  induction h
  case start => exact .start
  case shift ht ih => exact ih.turn ht.turn

theorem Reached.saved (h : Reached settings n s log) : s.Saved settings.nesting := by
  induction h
  case start =>
    simp only [Scene.Saved, Scene.start, List.forall_mem_singleton]
    cases settings.nesting <;> rfl
  case shift hr ht ih => exact ih.shift hr.numbered ht

theorem Reached.savepoint_eq_none (h : Reached settings n s log) (hf : settings.nesting = .flat)
    (hx : x ∈ s.live) : x.2.savepoint = none := by
  simpa [hf, Nesting.number, Frame.number?] using h.saved x hx

end

end PolySql
