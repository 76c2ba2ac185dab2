import Mathlib.Data.List.TakeWhile
import PolySql.Proofs.Transaction.Numbering

namespace PolySql

-- A path from its innermost frame that has not committed on.
def outstanding (committed path : List Nat) : List Nat :=
  path.dropWhile (· ∈ committed)

-- What was done in a frame is in the hands of the innermost frame around it that has not committed.
def holder (committed path : List Nat) : Option Nat :=
  (outstanding committed path).head?

section

variable {committed path : List Nat}

theorem holder_eq_none_iff : holder committed path = none ↔ ∀ k ∈ path, k ∈ committed := by
  simp [holder, outstanding, List.dropWhile_eq_nil_iff]

theorem not_mem_of_holder (h : holder committed path = some k) : k ∉ committed := by
  have := List.head?_dropWhile_not (· ∈ committed) path
  rw [← outstanding, ← holder, h] at this
  simpa using this

theorem mem_of_holder (h : holder committed path = some k) : k ∈ path :=
  List.dropWhile_suffix _ |>.mem (List.mem_of_mem_head? h)

theorem outstanding_of_mem (h : k ∈ committed) :
    outstanding committed (k :: path) = outstanding committed path := by
  simp [outstanding, h]

theorem outstanding_of_not_mem (h : k ∉ committed) :
    outstanding committed (k :: path) = k :: path := by
  simp [outstanding, h]

theorem outstanding_of_holder (h : holder committed path = some k) :
    ∃ rest, outstanding committed path = k :: rest := by
  cases ho : outstanding committed path
  case nil => simp [holder, ho] at h
  case cons j rest =>
    rw [holder, ho, List.head?_cons, Option.some.injEq] at h
    exact ⟨rest, by rw [h]⟩

theorem outstanding_concat : outstanding (committed ++ [k]) path =
    outstanding (committed ++ [k]) (outstanding committed path) := by
  induction path
  case nil => rfl
  case cons j rest ih =>
    by_cases h : j ∈ committed
    case pos =>
      rw [outstanding_of_mem h, outstanding_of_mem (List.mem_append_left _ h), ih]
    case neg => rw [outstanding_of_not_mem h]

-- Another commit hands over what the frame had.
theorem outstanding_concat_of_ne (h : holder committed path ≠ some k) :
    outstanding (committed ++ [k]) path = outstanding committed path := by
  rw [outstanding_concat]
  cases ho : holder committed path
  case none =>
    have : outstanding committed path = [] := by simpa [holder] using ho
    rw [this]
    rfl
  case some j =>
    have ⟨rest, hr⟩ := outstanding_of_holder ho
    have hj : j ∉ committed ++ [k] := by
      have := not_mem_of_holder ho
      simp_all
    rw [hr, outstanding_of_not_mem hj]

end

-- How a log relates to the frames that are open: what they hold was done inside them, those further out
-- first, and nothing that the outermost one had to do with is beyond its reach.
structure Holding (path : List Nat) (opened : Nat) (committed : List Nat) (log : Log) : Prop where
  uncommitted : ∀ k ∈ path, k ∉ committed
  below : ∀ x ∈ log, ∀ k ∈ x.1.path, k < opened
  committed_below : ∀ k ∈ committed, k < opened
  bottom : ∀ x ∈ log, 0 ∈ x.1.path
  suffix : ∀ x ∈ log, ∀ k ∈ path, holder committed x.1.path = some k →
    outstanding committed x.1.path <:+ path
  order : log.Pairwise fun x y => ∀ i ∈ path, ∀ j ∈ path, holder committed x.1.path = some i →
    holder committed y.1.path = some j → i ≤ j

namespace Holding

variable {path committed : List Nat} {opened : Nat} {log : Log}

theorem start : Holding [0] 1 [] [] where
  uncommitted := by simp
  below := by simp
  committed_below := by simp
  bottom := by simp
  suffix := by simp
  order := .nil

theorem nil (hb : ∀ x ∈ log, ∀ k ∈ x.1.path, k < opened) (hc : ∀ k ∈ committed, k < opened)
    (h₀ : ∀ x ∈ log, 0 ∈ x.1.path) : Holding [] opened committed log where
  uncommitted := by simp
  below := hb
  committed_below := hc
  bottom := h₀
  suffix := by simp
  order := by simp [List.pairwise_of_forall]

variable (h : Holding path opened committed log)

include h

theorem push : Holding (opened :: path) (opened + 1) committed log := by
  -- Nothing has happened in the new frame.
  have hn : ∀ x ∈ log, holder committed x.1.path ≠ some opened := fun x hx ho =>
    Nat.lt_irrefl _ (h.below x hx _ (mem_of_holder ho))
  constructor
  case uncommitted =>
    refine List.forall_mem_cons.mpr ⟨fun hc => Nat.lt_irrefl _ (h.committed_below _ hc), h.uncommitted⟩
  case below => exact fun x hx k hk => Nat.lt_succ_of_lt (h.below x hx k hk)
  case committed_below => exact fun k hk => Nat.lt_succ_of_lt (h.committed_below k hk)
  case bottom => exact h.bottom
  case suffix =>
    intro x hx k hk ho
    rcases List.mem_cons.mp hk with rfl | hk
    · exact absurd ho (hn x hx)
    · exact (h.suffix x hx k hk ho).trans (List.suffix_cons _ _)
  case order =>
    refine h.order.imp_of_mem fun {x y} hx hy ho i hi j hj hi' hj' => ?_
    rcases List.mem_cons.mp hi with rfl | hi
    · exact absurd hi' (hn x hx)
    rcases List.mem_cons.mp hj with rfl | hj
    · exact absurd hj' (hn y hy)
    exact ho i hi j hj hi' hj'

theorem append (hn : Numbered path opened) (hp : path ≠ []) (hnew : ∀ x ∈ new, x.1.path = path) :
    Holding path opened committed (log ++ new) := by
  have ⟨k, rest, hk⟩ := List.exists_cons_of_ne_nil hp
  subst hk
  have ho : outstanding committed (k :: rest) = k :: rest :=
    outstanding_of_not_mem (h.uncommitted k (by simp))
  have hh : holder committed (k :: rest) = some k := by rw [holder, ho, List.head?_cons]
  have hle : ∀ i ∈ k :: rest, i ≤ k := List.forall_mem_cons.mpr
    ⟨Nat.le_refl _, fun i hi => Nat.le_of_lt ((List.pairwise_cons.mp hn.descending).1 i hi)⟩
  constructor
  case uncommitted => exact h.uncommitted
  case below =>
    exact List.forall_mem_append.mpr ⟨h.below, fun x hx => hnew x hx ▸ hn.below⟩
  case committed_below => exact h.committed_below
  case bottom =>
    exact List.forall_mem_append.mpr
      ⟨h.bottom, fun x hx => hnew x hx ▸ List.mem_of_getLast? (hn.last hp)⟩
  case suffix =>
    refine List.forall_mem_append.mpr ⟨h.suffix, fun x hx _ _ _ => ?_⟩
    have he : outstanding committed x.1.path = k :: rest := by rw [hnew x hx, ho]
    exact he ▸ List.suffix_rfl
  case order =>
    refine List.pairwise_append.mpr ⟨h.order, ?_, ?_⟩
    · refine List.pairwise_of_forall_mem_list fun x hx y hy i hi j _ _ hj' => ?_
      rw [hnew y hy, hh] at hj'
      cases hj'
      exact hle i hi
    · intro x hx y hy i hi j _ _ hj'
      rw [hnew y hy, hh] at hj'
      cases hj'
      exact hle i hi

end Holding

namespace Holding

variable {committed : List Nat} {opened k j : Nat} {rest : List Nat} {log : Log}
  (h : Holding (k :: j :: rest) opened committed log) (hn : Numbered (k :: j :: rest) opened)

include h hn

-- What the innermost frame holds was done on the path of today.
theorem outstanding_innermost (hx : x ∈ log) (ho : holder committed x.1.path = some k) :
    outstanding committed x.1.path = k :: j :: rest := by
  have ⟨rest', hr⟩ := outstanding_of_holder ho
  have hs := h.suffix x hx k (by simp) ho
  rw [hr] at hs ⊢
  rcases List.suffix_cons_iff.mp hs with he | hs
  · exact he
  · exact absurd (hn.lt_head (hs.mem List.mem_cons_self)) (Nat.lt_irrefl k)

theorem undo : Holding (j :: rest) opened committed log := by
  have hmem : ∀ i ∈ j :: rest, i ∈ k :: j :: rest := fun i hi => List.mem_cons_of_mem _ hi
  constructor
  case uncommitted => exact fun i hi => h.uncommitted i (hmem i hi)
  case below => exact h.below
  case committed_below => exact h.committed_below
  case bottom => exact h.bottom
  case suffix =>
    intro x hx i hi ho
    have ⟨rest', hr⟩ := outstanding_of_holder ho
    rcases List.suffix_cons_iff.mp (h.suffix x hx i (hmem i hi) ho) with he | hs
    · rw [hr, List.cons.injEq] at he
      exact absurd (hn.lt_head hi) (he.1 ▸ Nat.lt_irrefl i)
    · exact hs
  case order =>
    exact h.order.imp fun ho i hi j hj => ho i (hmem i hi) j (hmem j hj)

-- On a commit the frame around takes over.
theorem outstanding_concat (hx : x ∈ log) :
    outstanding (committed ++ [k]) x.1.path =
      if holder committed x.1.path = some k then j :: rest else outstanding committed x.1.path := by
  split
  case isTrue ho =>
    have hj : j ∉ committed ++ [k] := by
      have hjc := h.uncommitted j (by simp)
      have hjk := hn.lt_head List.mem_cons_self
      simp only [List.mem_append, List.mem_singleton, not_or]
      exact ⟨hjc, Nat.ne_of_lt hjk⟩
    rw [PolySql.outstanding_concat, h.outstanding_innermost hn hx ho, outstanding_of_mem (by simp),
      outstanding_of_not_mem hj]
  case isFalse ho => exact outstanding_concat_of_ne ho

theorem holder_concat (hx : x ∈ log) : holder (committed ++ [k]) x.1.path =
    if holder committed x.1.path = some k then some j else holder committed x.1.path := by
  rw [holder, h.outstanding_concat hn hx]
  split <;> rfl

theorem commit : Holding (j :: rest) opened (committed ++ [k]) log := by
  have hmem : ∀ i ∈ j :: rest, i ∈ k :: j :: rest := fun i hi => List.mem_cons_of_mem _ hi
  have hd := (List.pairwise_cons.mp (List.pairwise_cons.mp hn.descending).2).1
  constructor
  case uncommitted =>
    intro i hi
    simp only [List.mem_append, List.mem_singleton, not_or]
    exact ⟨h.uncommitted i (hmem i hi), Nat.ne_of_lt (hn.lt_head hi)⟩
  case below => exact h.below
  case committed_below =>
    exact List.forall_mem_append.mpr ⟨h.committed_below, by simpa using hn.below k (by simp)⟩
  case bottom => exact h.bottom
  case suffix =>
    intro x hx i hi ho
    rw [h.holder_concat hn hx] at ho
    rw [h.outstanding_concat hn hx]
    split at ho
    case isTrue hk =>
      simp only [if_pos hk, List.suffix_rfl]
    case isFalse hk =>
      rw [if_neg hk]
      exact (h.undo hn).suffix x hx i hi ho
  case order =>
    refine h.order.imp_of_mem fun {x y} hx hy ho i hi i' hi' hxi hyi => ?_
    rw [h.holder_concat hn hx] at hxi
    rw [h.holder_concat hn hy] at hyi
    split at hxi <;> split at hyi
    case isTrue.isTrue =>
      rw [Option.some.injEq] at hxi hyi
      exact hxi ▸ hyi ▸ Nat.le_refl _
    case isTrue.isFalse hk _ =>
      -- Then the second entry is held further in than `k`.
      exact absurd (ho k (by simp) i' (hmem i' hi') hk hyi) (Nat.not_le_of_lt (hn.lt_head hi'))
    case isFalse.isTrue =>
      rw [Option.some.injEq] at hyi
      subst hyi
      rcases List.mem_cons.mp hi with rfl | hi
      · exact Nat.le_refl _
      · exact Nat.le_of_lt (hd i hi)
    case isFalse.isFalse => exact ho i (hmem i hi) i' (hmem i' hi') hxi hyi

end Holding

def Mark.isCommitted : Mark → Bool
  | committed => true
  | _ => false

-- The numbers of the frames whose commit was accepted.
def Log.committed (log : Log) : List Nat :=
  (log.filter (·.2.isCommitted)).filterMap (·.1.path.head?)

section

variable {m : Move} {path : List Nat} {marks : List Mark} {log : Log}

theorem Log.committed_append (log log' : Log) :
    Log.committed (log ++ log') = log.committed ++ log'.committed := by
  simp [committed]

theorem Mark.isCommitted_of_not_mem (h : committed ∉ marks) (hx : x ∈ marks) :
    x.isCommitted = false := by
  cases x
  case committed => exact absurd hx h
  all_goals rfl

theorem Move.committed_log (h : .committed ∉ marks) : (m.log path marks).committed = [] := by
  have : (m.log path marks).filter (·.2.isCommitted) = [] := by
    rw [List.filter_eq_nil_iff, Move.log, List.forall_mem_map]
    exact fun x hx => by simp [Mark.isCommitted_of_not_mem h hx]
  rw [Log.committed, this]
  rfl

theorem Move.committed_log_concat (h : .committed ∉ marks) :
    (m.log (k :: path) (marks ++ [.committed])).committed = [k] := by
  rw [Move.log, List.map_append, Log.committed_append, ← Move.log, m.committed_log h]
  rfl

theorem Move.path_of_mem_log (hx : x ∈ m.log path marks) : x.1.path = path := by
  simp only [Move.log, List.mem_map] at hx
  obtain ⟨_, _, rfl⟩ := hx
  rfl

theorem Holding.turn (h : Holding path opened log.committed log) (hn : Numbered path opened)
    (ht : Turn path opened marks path' opened') :
    Holding path' opened' (Log.committed (log ++ m.log path marks)) (log ++ m.log path marks) := by
  have happ : path ≠ [] → Holding path opened log.committed (log ++ m.log path marks) := fun hp =>
    h.append hn hp fun _ hx => m.path_of_mem_log hx
  rw [Log.committed_append]
  cases ht
  case opened hp => simpa [Move.log, Log.committed] using h.push
  case stayed hp hc =>
    rw [m.committed_log hc, List.append_nil]
    exact happ hp
  case merged hc =>
    rw [m.committed_log_concat hc]
    exact (happ (by simp)).commit hn
  case undone hc =>
    rw [m.committed_log hc, List.append_nil]
    exact (happ (by simp)).undo hn
  case committed _ k hc =>
    have ha := happ (by simp)
    rw [m.committed_log_concat hc]
    have hk := List.forall_mem_append.mpr ⟨ha.committed_below, hn.below⟩
    exact .nil ha.below hk ha.bottom
  case rolledBack hp hc =>
    rw [m.committed_log hc, List.append_nil]
    exact .nil (happ hp).below h.committed_below (happ hp).bottom

end

section

variable {settings : TransactionSettings} {n : Nat} {s : Scene} {log : Log}

theorem Reached.holding (h : Reached settings n s log) :
    Holding s.path s.opened log.committed log := by
  induction h
  case start => exact .start
  case shift m hr ht ih => exact ih.turn hr.numbered ht.turn

theorem Reached.zero_not_mem (h : Reached settings n s log) (hl : s.live ≠ []) :
    0 ∉ log.committed :=
  h.holding.uncommitted 0 (List.mem_of_getLast? (h.numbered.last (Scene.path_ne_nil.mpr hl)))

end

end PolySql
