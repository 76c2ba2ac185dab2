import Mathlib.Data.List.Basic
import PolySql.Proofs.Transaction.Holding

open scoped List

namespace PolySql

namespace Log

variable {α : Type} (f : Mark → Option α)

-- What a log tells of the marks that were left on certain paths.
def pick (p : List Nat → Bool) (log : Log) : List α :=
  (log.filter (p ·.1.path)).filterMap (f ·.2)

-- What is in certain hands.
def share (p : Option Nat → Bool) (log : Log) : List α :=
  log.pick f fun path => p (holder log.committed path)

-- What certain frames hold.
def held (ks : List Nat) (log : Log) : List α :=
  log.share f (·.any (· ∈ ks))

-- What was done in frames that have committed, as have all frames around them.
def lasting (log : Log) : List α :=
  log.pick f fun path => path.all (· ∈ log.committed)

-- What was done in frames that have not committed, or in one inside them.
def lost (log : Log) : List α :=
  log.pick f fun path => path.any (· ∉ log.committed)

end Log

section

variable {α : Type} {f : Mark → Option α} {m : Move} {path : List Nat} {marks : List Mark} {log : Log}

theorem Log.pick_append : Log.pick f p (log ++ log') = log.pick f p ++ Log.pick f p log' := by
  simp [pick]

theorem Log.pick_congr (h : ∀ x ∈ log, p x.1.path = q x.1.path) : log.pick f p = log.pick f q := by
  rw [pick, pick, List.filter_congr h]

theorem Log.pick_congr_of_isSome
    (h : ∀ x ∈ log, (f x.2).isSome → p x.1.path = q x.1.path) : log.pick f p = log.pick f q := by
  rw [pick, pick, List.filterMap_filter, List.filterMap_filter]
  refine List.filterMap_congr fun x hx => ?_
  cases hf : f x.2
  case none => simp
  case some => rw [h x hx (by simp [hf])]

theorem Move.pick_log : (m.log path marks).pick f p = if p path then marks.filterMap f else [] := by
  have hx : ∀ x ∈ m.log path marks, p x.1.path = p path := fun x hx => by rw [m.path_of_mem_log hx]
  rw [Log.pick, List.filter_congr hx]
  cases p path
  case true =>
    rw [List.filter_eq_self.mpr fun _ _ => rfl, Move.log, List.filterMap_map]
    rfl
  case false => simp

theorem Log.share_congr
    (h : ∀ x ∈ log, p (holder log.committed x.1.path) = q (holder log.committed x.1.path)) :
    log.share f p = log.share f q :=
  Log.pick_congr h

theorem Log.share_congr_of_isSome (h : ∀ x ∈ log, (f x.2).isSome →
    p (holder log.committed x.1.path) = q (holder log.committed x.1.path)) :
    log.share f p = log.share f q :=
  Log.pick_congr_of_isSome h

theorem Log.held_nil : log.held f [] = [] := by
  simp [held, share, pick]

theorem Log.lasting_eq : log.lasting f = log.share f (·.isNone) := by
  refine Log.pick_congr fun x _ => Bool.eq_iff_iff.mpr ?_
  rw [Option.isNone_iff_eq_none, holder_eq_none_iff]
  simp

theorem Log.lost_eq : log.lost f = log.share f (·.isSome) := by
  refine Log.pick_congr fun x _ => Bool.eq_iff_iff.mpr ?_
  rw [Option.isSome_iff_ne_none, Ne, holder_eq_none_iff]
  simp

namespace Holding

theorem holder_path (h : Holding (k :: rest) opened committed log) :
    holder committed (k :: rest) = some k := by
  rw [holder, outstanding_of_not_mem (h.uncommitted k List.mem_cons_self), List.head?_cons]

-- Nobody holds what a frame does that is yet to be opened.
theorem held_push (h : Holding path opened log.committed log) :
    log.held f (opened :: ks) = log.held f ks := by
  refine Log.share_congr fun x hx => ?_
  cases ho : holder log.committed x.1.path
  case none => rfl
  case some k =>
    have : k ≠ opened := Nat.ne_of_lt (h.below x hx k (mem_of_holder ho))
    simp [this]

theorem share_append (h : Holding (k :: rest) opened log.committed log) (hc : .committed ∉ marks) :
    Log.share f p (log ++ m.log (k :: rest) marks) =
      log.share f p ++ if p (some k) then marks.filterMap f else [] := by
  rw [Log.share, Log.committed_append, m.committed_log hc, List.append_nil, Log.pick_append,
    m.pick_log, h.holder_path]
  rfl

theorem held_append (h : Holding (k :: rest) opened log.committed log) (hc : .committed ∉ marks) :
    Log.held f ks (log ++ m.log (k :: rest) marks) =
      log.held f ks ++ if k ∈ ks then marks.filterMap f else [] := by
  rw [Log.held, h.share_append hc]
  simp [Log.held]

section

variable (h : Holding (k :: j :: rest) opened log.committed log)
  (hn : Numbered (k :: j :: rest) opened) (hc : .committed ∉ marks)

include h hn hc

-- The frame around takes over what the innermost one held.
theorem share_merge : Log.share f p (log ++ m.log (k :: j :: rest) (marks ++ [.committed])) =
    log.share f (fun o => p (if o = some k then some j else o)) ++
      if p (some j) then (marks ++ [Mark.committed]).filterMap f else [] := by
  have happ : Holding (k :: j :: rest) opened log.committed
      (log ++ m.log (k :: j :: rest) [.committed]) :=
    h.append hn (by simp) fun x hx => m.path_of_mem_log hx
  have hnew := happ.holder_concat hn (x := (⟨k :: j :: rest, m⟩, .committed)) (by simp [Move.log])
  rw [if_pos h.holder_path] at hnew
  rw [Log.share, Log.committed_append, m.committed_log_concat hc, Log.pick_append, m.pick_log, hnew]
  congr 1
  exact Log.pick_congr fun x hx => by rw [h.holder_concat hn hx]

theorem held_merge (hj : j ∈ ks) :
    Log.held f ks (log ++ m.log (k :: j :: rest) (marks ++ [.committed])) =
      log.held f (k :: ks) ++ (marks ++ [Mark.committed]).filterMap f := by
  rw [Log.held, h.share_merge hn hc, if_pos (by simpa using hj)]
  congr 1
  refine Log.share_congr fun x _ => ?_
  split
  case isTrue ho => simp [ho, hj]
  case isFalse ho => cases ho' : holder log.committed x.1.path <;> simp_all

theorem held_merge_of_not_mem (hk : k ∉ ks) (hj : j ∉ ks) :
    Log.held f ks (log ++ m.log (k :: j :: rest) (marks ++ [.committed])) = log.held f ks := by
  rw [Log.held, h.share_merge hn hc, if_neg (by simpa using hj), List.append_nil]
  refine Log.share_congr fun x _ => ?_
  split
  case isTrue ho => simp [ho, hj, hk]
  case isFalse ho => rfl

end

theorem ne_none (h : Holding path opened committed log) (h₀ : 0 ∉ committed) (hx : x ∈ log) :
    holder committed x.1.path ≠ none := fun ho =>
  h₀ (holder_eq_none_iff.mp ho 0 (h.bottom x hx))

-- Nothing lasts that was done in an outermost frame that has not committed.
theorem lasting_eq_nil (h : Holding path opened committed log) (h₀ : 0 ∉ log.committed) :
    log.lasting f = [] := by
  have : log.filter (fun x => (holder log.committed x.1.path).isNone) = [] := by
    rw [List.filter_eq_nil_iff]
    exact fun x hx ho =>
      h₀ (holder_eq_none_iff.mp (Option.isNone_iff_eq_none.mp ho) 0 (h.bottom x hx))
  rw [Log.lasting_eq, Log.share, Log.pick, this]
  rfl

theorem holder_commit (h : Holding [0] opened committed log) (hx : x ∈ log) :
    holder (committed ++ [0]) x.1.path =
      if holder committed x.1.path = some 0 then none else holder committed x.1.path := by
  split
  case isTrue ho =>
    have ⟨rest, hr⟩ := outstanding_of_holder ho
    have hs := h.suffix x hx 0 List.mem_cons_self ho
    have hrest : rest = [] := by simpa [hr] using hs.length_le
    rw [holder, PolySql.outstanding_concat, hr, hrest, outstanding_of_mem (by simp)]
    rfl
  case isFalse ho => rw [holder, outstanding_concat_of_ne ho, ← holder]

-- What the outermost frame held when it committed lasts.
theorem share_commit (h : Holding [0] opened log.committed log) (hc : .committed ∉ marks) :
    Log.share f p (log ++ m.log [0] (marks ++ [.committed])) =
      log.share f (fun o => p (if o = some 0 then none else o)) ++
        if p none then (marks ++ [Mark.committed]).filterMap f else [] := by
  have hnew : holder (log.committed ++ [0]) [0] = none :=
    holder_eq_none_iff.mpr (by simp)
  rw [Log.share, Log.committed_append, m.committed_log_concat hc, Log.pick_append, m.pick_log, hnew]
  congr 1
  exact Log.pick_congr fun x hx => by rw [h.holder_commit hx]

theorem lasting_commit (h : Holding [0] opened log.committed log) (hc : .committed ∉ marks) :
    Log.lasting f (log ++ m.log [0] (marks ++ [.committed])) =
      log.held f [0] ++ (marks ++ [Mark.committed]).filterMap f := by
  rw [Log.lasting_eq, h.share_commit hc, if_pos (Option.isNone_none)]
  congr 1
  refine Log.share_congr fun x hx => ?_
  have hne := h.ne_none (h.uncommitted 0 List.mem_cons_self) hx
  cases ho : holder log.committed x.1.path
  case none => exact absurd ho hne
  case some i => by_cases hi : i = 0 <;> simp [hi]

end Holding

end

end PolySql
