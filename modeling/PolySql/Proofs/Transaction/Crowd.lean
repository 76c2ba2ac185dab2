import Mathlib.Data.List.DropRight
import Mathlib.Data.List.Infix
import PolySql.Proofs.Transaction.Visits

open scoped List

namespace PolySql

-- A shared handle with the numbers of its frame and of those around it, innermost first.
structure Grip where
  handle : Handle
  lineage : List Nat
  deriving DecidableEq

namespace Grip

def isNested (g : Grip) : Bool :=
  0 < g.handle.depth

structure Valid (g : Grip) : Prop where
  shared : g.handle.shared = true
  length : g.lineage.length = g.handle.depth + 1
  last : g.lineage.getLast? = some 0

end Grip

-- One outermost transaction in the hands of several: its session, the numbers of its frames, innermost
-- first, how many there have been, the handles that are in use and those that no longer are, and the
-- marks that were left. A mark is found under the lineage of the handle that was used.
structure Crowd where
  session : Session Notes
  path : List Nat
  opened : Nat
  inUse : List Grip
  gone : List Grip
  log : Log

-- What can happen next: a move with one of the handles in use, or work in the background.
inductive Deed
  | move (i : Nat) (m : Move)
  | settle

namespace Crowd

def start (settings : TransactionSettings) (connection : Nat) (world : World Notes) : Crowd :=
  ⟨⟨.new settings connection, world⟩, [0], 1, [⟨⟨0, true⟩, [0]⟩], [], []⟩

-- What has happened since, with marks after it. Frames that there are no more have lost their numbers.
def advance (c : Crowd) (m : Move) (lineage : List Nat) (s : Session Notes) (marks : List Mark) :
    Crowd :=
  let es := s.world.trace.drop c.session.world.trace.length
  { c with
    session := s
    path := c.path.rtake (s.transaction.stack.top + 1)
    log := c.log ++ m.log lineage (es.map .event ++ marks) }

def release (c : Crowd) (i : Nat) (g : Grip) : Crowd :=
  { c with inUse := c.inUse.eraseIdx i, gone := g :: c.gone }

-- A move with the handle at the given place.
def move (c : Crowd) (i : Nat) (g : Grip) (m : Move) : Crowd :=
  match m with
  | .nested =>
    match exec g.handle.nested c.session with
    | (.ok inner, s) =>
      { c.advance m g.lineage s [] with
        path := c.opened :: c.path.rtake s.transaction.stack.top
        opened := c.opened + 1
        inUse := ⟨inner, c.opened :: g.lineage⟩ :: c.inUse }
    | (.error _, s) => c.advance m g.lineage s []
  | .step step =>
    let (r, s) := exec (step.plain g.handle) c.session
    let nesting := c.session.transaction.settings.nesting
    let c' := c.advance m g.lineage s (step.marks nesting g.handle.depth r.toBool)
    if step.isEnding then c'.release i g else c'
  | .drop => (c.advance m g.lineage (exec g.handle.drop c.session).2 []).release i g
  | .note notes =>
    { c with session := { c.session with world := { c.session.world with application := notes } } }

def perform (c : Crowd) : Deed → Crowd
  | .move i m =>
    match c.inUse[i]? with
    | some g => c.move i g m
    | none => c
  | .settle => c.advance .drop [0] (exec Tx.settle c.session).2 []

def run (c : Crowd) (deeds : List Deed) : Crowd :=
  deeds.foldl perform c

end Crowd

-- The paths of the nested frames.
def innerPaths (path : List Nat) : List (List Nat) :=
  path.tails.filter (1 < ·.length)

section

variable {path : List Nat}

theorem innerPaths_cons : innerPaths (k :: j :: rest) = (k :: j :: rest) :: innerPaths (j :: rest) := by
  simp [innerPaths, List.filter_cons]

theorem mem_innerPaths : l ∈ innerPaths path ↔ l <:+ path ∧ 1 < l.length := by
  simp [innerPaths, List.mem_tails]

theorem depths_innerPaths :
    (innerPaths path).map (·.length - 1) ~ List.range' 1 (path.length - 1) := by
  induction path
  case nil => rfl
  case cons k rest ih =>
    cases rest
    case nil => rfl
    case cons j rest =>
      have hr : List.range' 1 (rest.length + 1) = List.range' 1 rest.length ++ [rest.length + 1] := by
        rw [List.range'_concat]
        simp [Nat.add_comm]
      simp only [List.length_cons, Nat.add_sub_cancel] at ih
      rw [innerPaths_cons]
      simp only [List.map_cons, List.length_cons, Nat.add_sub_cancel]
      rw [hr]
      exact (ih.cons _).trans (List.perm_append_singleton _ _).symm

end

-- The handles in use, and those whose frames were given up and are still there, have one nested frame
-- each, and there are no other nested frames.
structure Owned (inUse waiting : List Grip) (abandoned path : List Nat) : Prop where
  nested : ∀ g ∈ waiting, g.isNested = true
  depths : waiting.map (·.handle.depth) ~ abandoned
  lineages : ((inUse ++ waiting).filter (·.isNested)).map (·.lineage) ~ innerPaths path

namespace Owned

variable {inUse waiting : List Grip} {abandoned path : List Nat}

theorem start : Owned [⟨⟨0, true⟩, [0]⟩] [] [] [0] where
  nested := by simp
  depths := .nil
  lineages := .nil

theorem perm (h : Owned inUse waiting abandoned path) (hp : inUse ~ inUse') :
    Owned inUse' waiting abandoned path where
  nested := h.nested
  depths := h.depths
  lineages := ((hp.symm.append_right _).filter _ |>.map _).trans h.lineages

theorem push (h : Owned inUse waiting abandoned (k :: rest)) (hn : g.isNested = true)
    (hl : g.lineage = j :: k :: rest) : Owned (g :: inUse) waiting abandoned (j :: k :: rest) where
  nested := h.nested
  depths := h.depths
  lineages := by
    rw [innerPaths_cons, List.cons_append, List.filter_cons_of_pos hn, List.map_cons, hl]
    exact h.lineages.cons _

theorem finish (h : Owned (g :: inUse) waiting abandoned (k :: j :: rest)) (hn : g.isNested = true)
    (hl : g.lineage = k :: j :: rest) : Owned inUse waiting abandoned (j :: rest) where
  nested := h.nested
  depths := h.depths
  lineages := by
    have hp := h.lineages
    rw [innerPaths_cons, List.cons_append, List.filter_cons_of_pos hn, List.map_cons, hl] at hp
    exact hp.cons_inv

theorem abandon (h : Owned (g :: inUse) waiting abandoned path) (hn : g.isNested = true) :
    Owned inUse (g :: waiting) (abandoned ++ [g.handle.depth]) path where
  nested := List.forall_mem_cons.mpr ⟨hn, h.nested⟩
  depths := (h.depths.cons _).trans (List.perm_append_singleton _ _).symm
  lineages := (List.perm_middle.filter _ |>.map _).trans h.lineages

theorem leave (h : Owned (g :: inUse) waiting abandoned path) (hn : g.isNested = false) :
    Owned inUse waiting abandoned path where
  nested := h.nested
  depths := h.depths
  lineages := by
    have hp := h.lineages
    rwa [List.cons_append, List.filter_cons_of_neg (by simp [hn])] at hp

section

variable (h : Owned inUse waiting abandoned path)

include h

theorem suffix (hg : g ∈ inUse ++ waiting) (hv : g.Valid) (hp : path.getLast? = some 0) :
    g.lineage <:+ path := by
  cases hn : g.isNested
  case true =>
    have hm : g.lineage ∈ ((inUse ++ waiting).filter (·.isNested)).map (·.lineage) :=
      List.mem_map_of_mem (List.mem_filter.mpr ⟨hg, hn⟩)
    exact (mem_innerPaths.mp (h.lineages.subset hm)).1
  case false =>
    have hd : g.handle.depth = 0 := by simpa [Grip.isNested] using hn
    have hl : g.lineage.length = 1 := by rw [hv.length, hd]
    have ⟨k, hk⟩ := List.length_eq_one_iff.mp hl
    have hlast := hv.last
    rw [hk, List.getLast?_singleton, Option.some.injEq] at hlast
    rw [hk, hlast]
    exact List.singleton_suffix_iff_getLast?_eq_some.mpr hp

-- The innermost frame is that of the handle of its depth.
theorem lineage_eq (hg : g ∈ inUse ++ waiting) (hv : g.Valid) (hp : path.getLast? = some 0)
    (hd : path.length = g.handle.depth + 1) : g.lineage = path :=
  (h.suffix hg hv hp).eq_of_length (hv.length.trans hd.symm)

theorem depth_lt (hg : g ∈ inUse ++ waiting) (hv : g.Valid) (hp : path.getLast? = some 0) :
    g.handle.depth < path.length := by
  have hl := (h.suffix hg hv hp).length_le
  rwa [hv.length] at hl

end

-- An abandoned frame that is the innermost one is forgotten.
theorem discard (h : Owned inUse waiting abandoned (k :: j :: rest))
    (hv : ∀ g ∈ inUse ++ waiting, g.Valid) (hp : (k :: j :: rest).getLast? = some 0)
    (ha : rest.length + 1 ∈ abandoned) :
    ∃ w ∈ waiting,
      Owned inUse (waiting.erase w) (abandoned.erase (rest.length + 1)) (j :: rest) := by
  have hm := h.depths.mem_iff.mpr ha
  obtain ⟨w, hw, hd⟩ := List.mem_map.mp hm
  have hn := h.nested w hw
  have hmem : w ∈ inUse ++ waiting := List.mem_append_right _ hw
  have hl := h.lineage_eq hmem (hv w hmem) hp (by simp [hd])
  have hwait := List.perm_cons_erase hw
  refine ⟨w, hw, fun g hg => h.nested g (List.mem_of_mem_erase hg), ?depths, ?lineages⟩
  case depths =>
    have hdepths := (hwait.map (·.handle.depth)).symm.trans h.depths
    rw [List.map_cons, hd] at hdepths
    exact (hdepths.trans (List.perm_cons_erase ha)).cons_inv
  case lineages =>
    have hall : w :: (inUse ++ waiting.erase w) ~ inUse ++ waiting :=
      List.perm_middle.symm.trans (hwait.symm.append_left _)
    have hp := ((hall.filter (·.isNested)).map (·.lineage)).trans h.lineages
    rw [innerPaths_cons, List.filter_cons_of_pos hn, List.map_cons, hl] at hp
    exact hp.cons_inv

-- The nested frames are those of the handles in use with those that were given up, and each is once
-- among them.
theorem depths_perm (h : Owned inUse waiting abandoned path) (hv : ∀ g ∈ inUse ++ waiting, g.Valid) :
    (inUse.filter (·.isNested)).map (·.handle.depth) ++ abandoned ~
      List.range' 1 (path.length - 1) := by
  have hl : ∀ g ∈ (inUse ++ waiting).filter (·.isNested), g.lineage.length - 1 = g.handle.depth :=
    fun g hg => by rw [(hv g (List.mem_of_mem_filter hg)).length, Nat.add_sub_cancel]
  have hp := (h.lineages.map (·.length - 1)).trans depths_innerPaths
  simp only [List.map_map, Function.comp_def] at hp
  rw [List.map_congr_left hl, List.filter_append, List.map_append, List.filter_eq_self.mpr h.nested] at hp
  exact (h.depths.symm.append_left _).trans hp

end Owned

end PolySql
