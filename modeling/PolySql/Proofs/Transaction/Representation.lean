import Mathlib.Data.List.Basic
import Mathlib.Data.Option.Basic
import PolySql.Proofs.Transaction.Point
import PolySql.Proofs.Transaction.Reachability

namespace PolySql

namespace Stack

-- The savepoints of the frames, outermost first.
def savepoints (s : Stack) : List (Option Savepoint) :=
  s.frames.map (·.savepoint)

-- There is an outermost frame, without a savepoint. Nested ones have theirs unless they are flat, and
-- those that were made come before those that are due.
structure Saved (s : Stack) : Prop where
  outermost : s.savepoints.head? = some none
  nested : ∀ p ∈ s.savepoints.tail, p.isSome ↔ s.nesting = .savepoints
  ascending : s.savepoints.Pairwise fun p q => ∀ a ∈ p, ∀ b ∈ q, a.number < b.number
  counted : ∀ p ∈ s.savepoints, ∀ a ∈ p, a.number ≤ s.savepointCount
  created : ∃ made due, s.savepoints.tail = made ++ due ∧
    (∀ p ∈ made, p.any (·.created)) ∧ ∀ p ∈ due, ¬p.any (·.created)
  begun : ∀ p ∈ s.savepoints, p.any (·.created) → s.begun

-- What holds of a stack between operations.
structure Invariant (s : Stack) : Prop extends s.Saved where
  lower : s.status 0 = .active → ∀ depth < s.top, s.status depth = .active
  ended : s.status 0 ≠ .active → ∀ depth, s.status depth ≠ .active
  hooks : ∀ f ∈ s.frames, f.status ≠ .active → f.onCommit = [] ∧ f.onRollback = []

-- It holds of a stack whose transaction goes on.
structure Ongoing (s : Stack) : Prop extends s.Invariant where
  active : s.status 0 = .active

variable {s s' : Stack} {frames : List Frame}

theorem savepoints_withInward (s : Stack) (frames : List Frame) :
    (s.withInward frames).savepoints = (frames.map (·.savepoint)).reverse := by
  simp [savepoints, withInward]

theorem savepoints_eq (s : Stack) : s.savepoints = (s.inward.map (·.savepoint)).reverse := by
  simp [savepoints, inward]

theorem pop_eq (hd : 0 < depth) (ht : depth = s.top) :
    s.pop depth = { s with frames := s.frames.take depth } :=
  if_pos ⟨hd, ht⟩

theorem pop_of_not (h : ¬(0 < depth ∧ depth = s.top)) : s.pop depth = s :=
  if_neg h

theorem status_of_getElem? {f : Frame} (h : s.frames[depth]? = some f) : s.status depth = f.status := by
  simp [status, h]

theorem status_take (h : k < depth) :
    status { s with frames := s.frames.take depth } k = s.status k := by
  simp [status, h]

theorem status_pop_zero (s : Stack) (depth : Nat) : (s.pop depth).status 0 = s.status 0 := by
  by_cases hd : 0 < depth ∧ depth = s.top
  case neg => rw [pop_of_not hd]
  case pos => rw [pop_eq hd.1 hd.2, status_take hd.1]

theorem status_ne_active_of_forall (h : ∀ f ∈ s.inward, f.status ≠ .active) (depth : Nat) :
    s.status depth ≠ .active := by
  cases hf : s.frames[depth]?
  case none => simp [status, hf]
  case some f =>
    rw [status_of_getElem? hf]
    exact h f (List.mem_reverse.mpr (List.mem_of_getElem? hf))

theorem status_of_forall_below (hi : s.inward = f :: below) (h : ∀ g ∈ below, g.status = .active)
    (hd : depth < s.top) : s.status depth = .active := by
  rw [top_eq hi] at hd
  have hf : s.frames[depth]? = below.reverse[depth]? := by
    rw [frames_eq hi, List.getElem?_append_left (by simpa using hd)]
  have hd' : depth < below.reverse.length := by simpa using hd
  rw [status_of_getElem? (hf.trans (List.getElem?_eq_getElem hd'))]
  exact h _ (List.mem_reverse.mp (List.getElem_mem hd'))

namespace Saved

theorem savepoints_eq_cons (h : s.Saved) : s.savepoints = none :: s.savepoints.tail :=
  List.eq_cons_of_mem_head? h.outermost

theorem new (nesting : Nesting) (isolation : Option Isolation) (readOnly : Bool) :
    (Stack.new nesting isolation readOnly).Saved := by
  have hp : (Stack.new nesting isolation readOnly).savepoints = [none] := rfl
  exact {
    outermost := by rw [hp, List.head?_cons]
    nested := by simp [hp]
    ascending := hp ▸ List.pairwise_singleton ..
    counted := by simp [hp]
    created := ⟨[], [], by rw [hp]; rfl, by simp, by simp⟩
    begun := by simp [hp] }

-- What becomes of the frames otherwise does not matter.
theorem of_savepoints_eq (h : s.Saved) (hp : s'.savepoints = s.savepoints)
    (hn : s'.nesting = s.nesting) (hc : s'.savepointCount = s.savepointCount)
    (hb : s'.begun = s.begun) : s'.Saved where
  outermost := hp ▸ h.outermost
  nested := hp ▸ hn ▸ h.nested
  ascending := hp ▸ h.ascending
  counted := hp ▸ hc ▸ h.counted
  created := hp ▸ h.created
  begun := hp ▸ hb ▸ h.begun

theorem withInward (h : s.Saved)
    (hp : frames.map (·.savepoint) = s.inward.map (·.savepoint)) : (s.withInward frames).Saved :=
  h.of_savepoints_eq (by rw [savepoints_withInward, hp, savepoints_eq]) rfl rfl rfl

theorem pop (h : s.Saved) (depth : Nat) : (s.pop depth).Saved := by
  by_cases hd : 0 < depth ∧ depth = s.top
  case neg => rwa [pop_of_not hd]
  case pos =>
    obtain ⟨k, rfl⟩ := Nat.exists_eq_succ_of_ne_zero (Nat.ne_of_gt hd.1)
    rw [pop_eq hd.1 hd.2]
    let s' := { s with frames := s.frames.take (k + 1) }
    have hp : s'.savepoints = s.savepoints.take (k + 1) := List.map_take
    have ht : s'.savepoints.tail = s.savepoints.tail.take k := by
      rw [hp, h.savepoints_eq_cons, List.take_succ_cons, List.tail_cons, List.tail_cons]
    have ⟨made, due, he, hmade, hdue⟩ := h.created
    exact {
      outermost := by
        rw [hp, h.savepoints_eq_cons]
        rfl
      nested p hm := h.nested p (List.mem_of_mem_take (ht ▸ hm))
      ascending := hp ▸ h.ascending.sublist (List.take_sublist ..)
      counted p hm := h.counted p (List.mem_of_mem_take (hp ▸ hm))
      created := ⟨made.take k, due.take (k - made.length), by rw [ht, he, List.take_append],
        fun p hm => hmade p (List.mem_of_mem_take hm), fun p hm => hdue p (List.mem_of_mem_take hm)⟩
      begun p hm := h.begun p (List.mem_of_mem_take (hp ▸ hm)) }

-- All that were due are made.
theorem prepared (h : s.Saved) : s.prepared.Saved := by
  have hp : s.prepared.savepoints =
      s.savepoints.map (Option.map fun a => { a with created := true }) := by
    simp [savepoints, Stack.prepared, Frame.established]
  have hnested : ∀ p ∈ s.prepared.savepoints.tail, p.isSome ↔ s.nesting = .savepoints := by
    rw [hp, ← List.map_tail, List.forall_mem_map]
    intro p hm
    rw [Option.isSome_map]
    exact h.nested p hm
  have hmade : ∀ p ∈ s.prepared.savepoints, p.any (·.created) = p.isSome := by
    rw [hp, List.forall_mem_map]
    intro p _
    cases p <;> rfl
  exact {
    outermost := by
      rw [hp, h.savepoints_eq_cons]
      rfl
    nested := hnested
    ascending := by
      simp only [hp, List.pairwise_map, Option.forall_mem_map]
      exact h.ascending
    counted := by
      simp only [hp, List.forall_mem_map, Option.forall_mem_map]
      exact h.counted
    created := by
      by_cases hn : s.nesting = .savepoints
      case pos =>
        refine ⟨s.prepared.savepoints.tail, [], by simp, fun p hm => ?_, by simp⟩
        rw [hmade p (List.mem_of_mem_tail hm)]
        exact (hnested p hm).mpr hn
      case neg =>
        refine ⟨[], s.prepared.savepoints.tail, rfl, by simp, fun p hm => ?_⟩
        rw [hmade p (List.mem_of_mem_tail hm), hnested p hm]
        exact hn
    begun _ _ _ := rfl }

-- A new frame comes last, with the next number.
theorem concat (h : s.Saved) (hp : s'.savepoints = s.savepoints ++ [p])
    (hnew : p.isSome ↔ s.nesting = .savepoints) (hdue : ¬p.any (·.created))
    (hlast : ∀ a ∈ p, s.savepointCount < a.number ∧ a.number ≤ s'.savepointCount)
    (hc : s.savepointCount ≤ s'.savepointCount)
    (hn : s'.nesting = s.nesting) (hb : s'.begun = s.begun) : s'.Saved := by
  have ht : s'.savepoints.tail = s.savepoints.tail ++ [p] := by
    rw [hp, h.savepoints_eq_cons]
    rfl
  have ⟨made, due, he, hmade, hd⟩ := h.created
  exact {
    outermost := by
      rw [hp, h.savepoints_eq_cons]
      rfl
    nested := by
      rw [ht, hn]
      simpa [or_imp, forall_and, hnew] using h.nested
    ascending := by
      rw [hp, List.pairwise_append]
      refine ⟨h.ascending, List.pairwise_singleton .., fun q hq p' hp' a ha b hb => ?_⟩
      obtain rfl := List.mem_singleton.mp hp'
      exact Nat.lt_of_le_of_lt (h.counted q hq a ha) (hlast b hb).1
    counted := by
      rw [hp]
      intro q hq a ha
      rcases List.mem_append.mp hq with hq | hq
      · exact Nat.le_trans (h.counted q hq a ha) hc
      · obtain rfl := List.mem_singleton.mp hq
        exact (hlast a ha).2
    created := ⟨made, due ++ [p], by rw [ht, he, List.append_assoc], hmade,
      List.forall_mem_append.mpr ⟨hd, List.forall_mem_singleton.mpr hdue⟩⟩
    begun := by
      rw [hp, hb, List.forall_mem_append, List.forall_mem_singleton]
      exact ⟨h.begun, fun hp => absurd hp hdue⟩ }

theorem push (h : s.Saved) (hs : s.push depth = .ok s') : s'.Saved := by
  rw [push_eq (open_of_push hs), Except.ok.injEq] at hs
  cases hn : s.nesting <;> simp only [hn] at hs <;> subst hs
  case savepoints =>
    refine h.concat (p := some ⟨s.savepointCount + 1, false⟩) ?_ (by simp [hn]) (by simp) (by simp)
      (Nat.le_succ _) rfl rfl
    simp [savepoints, Stack.withInward, inward, Frame.opened]
  case flat =>
    refine h.concat (p := none) ?_ (by simp [hn]) (by simp) (by simp) (Nat.le_refl _) rfl rfl
    simp [savepoints, Stack.withInward, inward, Frame.opened]

end Saved

-- Frames of which at most the innermost one has ended, or all have.
theorem lower_of_standing (hs : Point.Standing s.inward) (h : s.status 0 = .active) :
    ∀ depth < s.top, s.status depth = .active := by
  intro depth hd
  rcases hs with ha | hn
  case inl =>
    cases hi : s.inward
    case nil => simp [top, List.reverse_eq_nil_iff.mp hi] at hd
    case cons f below => exact status_of_forall_below hi (by simpa [hi] using ha) hd
  case inr => exact absurd h (status_ne_active_of_forall hn 0)

theorem ended_of_standing (hs : Point.Standing s.inward) (h : s.status 0 ≠ .active) :
    ∀ depth, s.status depth ≠ .active := by
  refine status_ne_active_of_forall ?_
  rcases hs with ha | hn
  case inr => exact hn
  case inl =>
    cases hi : s.inward
    case nil => simp
    case cons f below =>
      cases below
      case nil =>
        rw [Point.status_zero_of_nil hi] at h
        simpa using h
      case cons g rest => exact absurd (Point.status_zero_of_cons hi (by simpa [hi] using ha)) h

namespace Invariant

theorem of_standing (hsv : s.Saved) (hst : Point.Standing s.inward)
    (hh : ∀ f ∈ s.inward, f.status ≠ .active → f.onCommit = [] ∧ f.onRollback = []) :
    s.Invariant where
  toSaved := hsv
  lower := lower_of_standing hst
  ended := ended_of_standing hst
  hooks f hf := hh f (List.mem_reverse.mpr hf)

theorem new (nesting : Nesting) (isolation : Option Isolation) (readOnly : Bool) :
    (Stack.new nesting isolation readOnly).Invariant :=
  of_standing (.new ..) (.inl (List.forall_mem_nil _))
    (List.forall_mem_singleton.mpr fun _ => ⟨rfl, rfl⟩)

variable (h : s.Invariant)

include h

theorem status_zero_of_open (ho : s.Open depth) : s.status 0 = .active := by
  by_contra hn
  exact h.ended hn depth ho.active

-- While a frame may act, all are active.
theorem forall_active_of_open (ho : s.Open depth) : ∀ f ∈ s.inward, f.status = .active := by
  intro f hf
  obtain ⟨i, hi⟩ := List.mem_iff_getElem?.mp (List.mem_reverse.mp hf)
  rw [← status_of_getElem? hi]
  have hl : i < s.frames.length := (List.getElem?_eq_some_iff.mp hi).1
  rcases Nat.lt_or_eq_of_le (Nat.le_sub_one_of_lt hl) with ht | ht
  · exact h.lower (h.status_zero_of_open ho) i ht
  · rw [ht, ← top, ← ho.innermost]
    exact ho.active

-- Savepoints stay as they are.
theorem withInward (hp : frames.map (·.savepoint) = s.inward.map (·.savepoint))
    (hst : Point.Standing frames)
    (hh : ∀ f ∈ frames, f.status ≠ .active → f.onCommit = [] ∧ f.onRollback = []) :
    (s.withInward frames).Invariant :=
  of_standing (h.toSaved.withInward hp) (by rwa [inward_withInward]) (by rwa [inward_withInward])

theorem rolledBackFrom_zero : (s.rolledBackFrom 0).2.Invariant := by
  rw [Stack.rolledBackFrom_zero]
  refine h.withInward (by simp [Frame.rolledBack]) (.inr ?_) ?_ <;> rw [List.forall_mem_map]
  · intro f _
    cases hf : f.status <;> simp [Frame.rolledBack, hf]
  · exact fun _ _ _ => ⟨rfl, rfl⟩

theorem committed_zero (ho : s.Open 0) : (s.committed 0).2.Invariant := by
  have ⟨f, below, hi, hb⟩ := exists_frames ho
  have hb : below = [] := List.length_eq_zero_iff.mp hb.symm
  rw [committed_nil hi hb]
  refine h.withInward (by rw [hi, hb]; rfl) (.inl (List.forall_mem_nil _)) ?_
  exact List.forall_mem_singleton.mpr fun _ => ⟨rfl, rfl⟩

theorem pop (depth : Nat) : (s.pop depth).Invariant := by
  have h₀ := s.status_pop_zero depth
  by_cases hd : 0 < depth ∧ depth = s.top
  case neg => rwa [pop_of_not hd]
  case pos =>
    have hsv := h.toSaved.pop depth
    rw [pop_eq hd.1 hd.2] at hsv h₀ ⊢
    exact {
      toSaved := hsv
      lower := by
        rw [h₀]
        intro ha k hk
        simp only [top, List.length_take] at hk
        rw [status_take (by omega)]
        exact h.lower ha k (by omega)
      ended := by
        rw [h₀]
        intro hn k
        by_cases hk : k < depth
        case pos =>
          rw [status_take hk]
          exact h.ended hn k
        case neg => simp [status, List.getElem?_take_eq_none (Nat.le_of_not_lt hk)]
      hooks f hf := h.hooks f (List.mem_of_mem_take hf) }

end Invariant

namespace Ongoing

theorem of_mem (h : s.Invariant) (hf : f ∈ s.inward) (ha : f.status = .active) : s.Ongoing := by
  refine ⟨h, ?_⟩
  by_contra hn
  obtain ⟨k, hk⟩ := List.mem_iff_getElem?.mp (List.mem_reverse.mp hf)
  exact h.ended hn k ((status_of_getElem? hk).trans ha)

variable (h : s.Invariant) (ho : s.Open depth)

include h ho

-- What becomes of the innermost frame, as long as the ones around it are as before.
theorem withInnermost (hi : s.inward = f :: below) (hp : f'.savepoint = f.savepoint)
    (hh : f'.status ≠ .active → f'.onCommit = [] ∧ f'.onRollback = [])
    (ha : f'.status = .active ∨ below ≠ []) : (s.withInward (f' :: below)).Ongoing := by
  have hb := (List.forall_mem_cons.mp (hi ▸ h.forall_active_of_open ho)).2
  have hs : (s.withInward (f' :: below)).Invariant := by
    refine h.withInward (by simp [hi, hp]) (.inl hb) ?_
    exact List.forall_mem_cons.mpr ⟨hh, fun g hg hn => absurd (hb g hg) hn⟩
  rcases ha with ha | hne
  · exact of_mem hs (by simp) ha
  · obtain ⟨g, hg⟩ := List.exists_mem_of_ne_nil below hne
    exact of_mem hs (by simp [hg]) (hb g hg)

theorem settings (isolation : Option Isolation) (readOnly : Bool) :
    Ongoing { s with isolation := isolation, readOnly := readOnly } where
  toSaved := h.toSaved.of_savepoints_eq rfl rfl rfl rfl
  lower := h.lower
  ended := h.ended
  hooks := h.hooks
  active := h.status_zero_of_open ho

theorem prepared : s.prepared.Ongoing := by
  have ⟨f, below, hi, _⟩ := exists_frames ho
  have hp := s.inward_prepared
  have ha : ∀ f ∈ s.inward.map Frame.established, f.status = .active :=
    List.forall_mem_map.mpr (h.forall_active_of_open ho)
  have hf : f.established ∈ s.inward.map Frame.established := List.mem_map_of_mem (by simp [hi])
  refine of_mem (.of_standing h.toSaved.prepared (.inl ?_) ?_) (hp ▸ hf) (ha _ hf) <;> rw [hp]
  · exact fun g hg => ha g (List.mem_of_mem_tail hg)
  · exact fun g hg hn => absurd (ha g hg) hn

theorem push (hs : s.push depth = .ok s') : s'.Ongoing := by
  have hsv := h.toSaved.push hs
  have ha := h.forall_active_of_open ho
  have ⟨p, hi⟩ : ∃ p, s'.inward = .opened p :: s.inward := by
    rw [push_eq ho, Except.ok.injEq] at hs
    cases hn : s.nesting <;> simp only [hn] at hs <;> subst hs
    case savepoints => exact ⟨_, inward_withInward s _⟩
    case flat => exact ⟨_, inward_withInward s _⟩
  refine of_mem (.of_standing hsv (.inl ?_) ?_) (hi ▸ List.mem_cons_self) rfl <;> rw [hi]
  · exact ha
  · exact List.forall_mem_cons.mpr ⟨absurd rfl, fun f hf hn => absurd (ha f hf) hn⟩

theorem onCommit (hs : s.onCommit depth hook = .ok s') : s'.Ongoing := by
  obtain ⟨f, below, hi, rfl⟩ := exists_frames ho
  rw [onCommit_length hi hook ho, Except.ok.injEq] at hs
  subst hs
  have hf := (open_length_iff hi).mp ho
  exact withInnermost h ho hi rfl (absurd hf) (.inl hf)

theorem onRollback (hs : s.onRollback depth hook = .ok s') : s'.Ongoing := by
  obtain ⟨f, below, hi, rfl⟩ := exists_frames ho
  rw [onRollback_length hi hook ho, Except.ok.injEq] at hs
  subst hs
  have hf := (open_length_iff hi).mp ho
  exact withInnermost h ho hi rfl (absurd hf) (.inl hf)

-- The frame around it takes over its hooks.
theorem committed (hd : depth ≠ 0) : (s.committed depth).2.Ongoing := by
  obtain ⟨f, below, hi, rfl⟩ := exists_frames ho
  obtain ⟨g, rest, rfl⟩ := List.exists_cons_of_ne_nil (List.length_eq_zero_iff.not.mp hd)
  have ha := List.forall_mem_cons.mp (List.forall_mem_cons.mp (hi ▸ h.forall_active_of_open ho)).2
  rw [committed_cons hi rfl]
  refine of_mem (h.withInward (by rw [hi]; rfl) (.inl ?_) ?_) (by simp) (f := g.inherit f) ha.1
  · exact List.forall_mem_cons.mpr ha
  · refine List.forall_mem_cons.mpr ⟨fun _ => ⟨rfl, rfl⟩, List.forall_mem_cons.mpr ⟨absurd ha.1, ?_⟩⟩
    exact fun g hg hn => absurd (ha.2 g hg) hn

theorem rolledBack (he : s.rollsBackEverything depth = false) : (s.rolledBack depth).2.Ongoing := by
  obtain ⟨f, below, hi, rfl⟩ := exists_frames ho
  rw [Stack.rolledBack, if_neg (by simp [he]), rolledBackFrom_length hi]
  refine withInnermost h ho hi rfl (fun _ => ⟨rfl, rfl⟩) (.inr ?_)
  rintro rfl
  simp [rollsBackEverything] at he

end Ongoing

end Stack

end PolySql
