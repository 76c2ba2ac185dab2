import PolySql.Proofs.Transaction.History
import PolySql.Proofs.Transaction.Share

open scoped List

namespace PolySql

def Event.hook? : Event → Option String
  | hook label => some label
  | _ => none

def Mark.onCommit? : Mark → Option String
  | onCommit hook => some hook
  | _ => none

def Mark.onRollback? : Mark → Option String
  | onRollback hook => some hook
  | _ => none

-- The hooks that have run.
def Log.hooks (log : Log) : List String :=
  log.events.filterMap Event.hook?

-- What is in the hands of frames that are no longer open.
def Log.dropped {α : Type} (f : Mark → Option α) (path : List Nat) (log : Log) : List α :=
  log.share f (·.any (· ∉ path))

section

variable {α β : Type} {l : List α} {p q : α → Bool}

-- Two filters at once, where the first one finds nothing after the second one has.
theorem filter_or_of_pairwise (hd : ∀ x ∈ l, q x = true → p x = false)
    (h : l.Pairwise fun x y => q x = true → p y = false) :
    l.filter (fun x => p x || q x) = l.filter p ++ l.filter q := by
  induction l
  case nil => rfl
  case cons x rest ih =>
    have ⟨hx, hr⟩ := List.pairwise_cons.mp h
    have ih := ih (fun y hy => hd y (List.mem_cons_of_mem _ hy)) hr
    cases hq : q x
    case false => cases hp : p x <;> simp [hp, hq, ih]
    case true =>
      have hpx := hd x List.mem_cons_self hq
      have hnil : rest.filter p = [] :=
        List.filter_eq_nil_iff.mpr fun y hy => by simp [hx y hy hq]
      rw [hnil, List.nil_append] at ih
      simp [hpx, hq, ih, hnil]

theorem filter_or_perm (hd : ∀ x ∈ l, q x = true → p x = false) :
    l.filter (fun x => p x || q x) ~ l.filter p ++ l.filter q := by
  have hp : (l.filter fun x => p x || q x).filter p = l.filter p := by
    rw [List.filter_filter]
    exact List.filter_congr fun x _ => by cases p x <;> simp
  have hq : (l.filter fun x => p x || q x).filter (fun x => !p x) = l.filter q := by
    rw [List.filter_filter]
    refine List.filter_congr fun x hx => ?_
    cases hqx : q x
    case false => cases p x <;> rfl
    case true => simp [hd x hx hqx]
  exact hp ▸ hq ▸ (List.filter_append_perm p _).symm

end

section

variable {α : Type} {f : Mark → Option α} {m : Move} {path : List Nat} {log : Log}

theorem Log.share_or_perm (hd : ∀ o, q o = true → p o = false) :
    log.share f (fun o => p o || q o) ~ log.share f p ++ log.share f q := by
  rw [share, share, share, pick, pick, pick, ← List.filterMap_append]
  exact (filter_or_perm fun _ _ => hd _).filterMap _

-- What frames hold is dropped with them.
theorem Log.dropped_perm (log : Log) (ks : List Nat) (hd : ∀ k ∈ ks, k ∉ rest) :
    log.dropped f rest ~ log.dropped f (ks ++ rest) ++ log.held f ks := by
  have hp : log.dropped f rest =
      log.share f fun o => o.any (· ∉ ks ++ rest) || o.any (· ∈ ks) := by
    refine Log.share_congr fun x _ => ?_
    cases holder log.committed x.1.path
    case none => rfl
    case some i =>
      by_cases hi : i ∈ ks
      case pos => simp [hi, hd i hi]
      case neg => simp [hi]
  rw [hp]
  refine Log.share_or_perm fun o ho => ?_
  cases o
  case none => rfl
  case some i =>
    have hi : i ∈ ks := by simpa using ho
    simp [hi]

theorem Log.lost_eq_dropped : log.lost f = log.dropped f [] := by
  rw [lost_eq]
  refine share_congr fun x _ => ?_
  cases holder log.committed x.1.path <;> simp

-- What an inner frame holds came after what those around it hold.
theorem Holding.held_cons (h : Holding path opened log.committed log) (hk : k ∈ path)
    (ho : ∀ i ∈ outer, i ∈ path) (hlt : ∀ i ∈ outer, i < k) :
    log.held f (k :: outer) = log.held f outer ++ log.held f [k] := by
  have hp : log.held f (k :: outer) =
      log.share f fun o => o.any (· ∈ outer) || o.any (· ∈ [k]) := by
    refine Log.share_congr fun x _ => ?_
    cases holder log.committed x.1.path <;> simp [Bool.or_comm]
  have hne : ∀ o : Option Nat, o.any (· ∈ [k]) = true → o.any (· ∈ outer) = false := fun o ho => by
    cases o
    case none => rfl
    case some i =>
      have hi : i = k := by simpa using ho
      have : k ∉ outer := fun hk => Nat.lt_irrefl k (hlt k hk)
      simp [hi, this]
  rw [hp, Log.held, Log.held, Log.share, Log.share, Log.share, Log.pick, Log.pick, Log.pick,
    ← List.filterMap_append]
  congr 1
  refine filter_or_of_pairwise (fun _ _ => hne _) (h.order.imp fun {x y} hle hx => ?_)
  cases hi : holder log.committed y.1.path
  case none => rfl
  case some i =>
    have hxk : holder log.committed x.1.path = some k := by
      cases hxk : holder log.committed x.1.path <;> simp_all
    have : i ∉ outer := fun hio => by
      have := hle k hk i (ho i hio) hxk hi
      have := hlt i hio
      omega
    simp [this]

theorem Holding.held_perm (h : Holding path opened log.committed log) (hn : Numbered path opened)
    (hs : ks <:+ path) : log.held f ks ~ ks.flatMap fun k => log.held f [k] := by
  induction ks
  case nil => rw [Log.held_nil]; exact .refl _
  case cons k outer ih =>
    have hd := (List.suffix_iff_eq_drop.mp hs) ▸ hn.descending.drop
    have hmem : ∀ i ∈ outer, i ∈ path := fun i hi => hs.mem (List.mem_cons_of_mem _ hi)
    rw [h.held_cons (hs.mem List.mem_cons_self) hmem (List.pairwise_cons.mp hd).1, List.flatMap_cons]
    exact List.perm_append_comm.trans ((ih ((List.suffix_cons _ _).trans hs)).append_left _)

end

section

@[simp]
theorem filterMap_hook?_told (settings : TransactionSettings) (notice : Notice) :
    (settings.told notice).filterMap Event.hook? = [] :=
  List.filterMap_eq_nil_iff.mpr (List.forall_mem_map.mpr fun _ _ => rfl)

@[simp]
theorem filterMap_hook?_hooks (labels : List String) :
    (hookEvents labels).filterMap Event.hook? = labels := by
  rw [hookEvents, List.filterMap_map]
  exact List.filterMap_some

theorem Tried.filterMap_hook? (h : Tried n controls es r) : es.filterMap Event.hook? = [] := by
  induction h
  case done | failed => rfl
  case next ih => exact ih

theorem Log.hooks_append (log : Log) (m : Move) (path : List Nat) (marks : List Mark) :
    Log.hooks (log ++ m.log path marks) =
      log.hooks ++ (marks.filterMap Mark.event?).filterMap Event.hook? := by
  rw [hooks, events_append, Move.events_log, List.filterMap_append, ← hooks]

end

-- The hooks of a transaction that goes on: each open frame has those that it holds, in the order of
-- their registration, and of the others those for a rollback have run.
structure Hooked (s : Scene) (log : Log) : Prop where
  onCommit : ∀ x ∈ s.live, x.2.onCommit = log.held Mark.onCommit? [x.1]
  onRollback : ∀ x ∈ s.live, x.2.onRollback = log.held Mark.onRollback? [x.1]
  ran : log.hooks ~ log.dropped Mark.onRollback? s.path

-- The hooks of a transaction that has ended: those for a rollback of what was lost, and after them those
-- for a commit of what lasts, in the order of their registration.
def Log.Settled (log : Log) : Prop :=
  ∃ undone, log.hooks = undone ++ log.lasting Mark.onCommit? ∧
    undone ~ log.lost Mark.onRollback?

namespace Hooked

variable {settings : TransactionSettings} {n : Nat} {m : Move} {s s' : Scene} {log : Log}
  {marks : List Mark} {es : List Event}

theorem start : Hooked (.start settings) [] where
  onCommit := by simp [Scene.start, Frame.opened, Log.held, Log.share, Log.pick]
  onRollback := by simp [Scene.start, Frame.opened, Log.held, Log.share, Log.pick]
  ran := by simp [Log.hooks, Log.events, Log.dropped, Log.share, Log.pick]

variable (h : Hooked s log)

include h

theorem push (hh : Holding s.path s.opened log.committed log) (nesting : Nesting) :
    Hooked (s.push nesting) log := by
  have hnil {α : Type} (f : Mark → Option α) : log.held f [s.opened] = [] := by
    rw [hh.held_push, Log.held_nil]
  constructor
  case onCommit => exact List.forall_mem_cons.mpr ⟨(hnil _).symm, h.onCommit⟩
  case onRollback => exact List.forall_mem_cons.mpr ⟨(hnil _).symm, h.onRollback⟩
  case ran =>
    have hd : log.dropped Mark.onRollback? (s.push nesting).path =
        log.dropped Mark.onRollback? s.path := by
      refine Log.share_congr fun x hx => ?_
      cases ho : holder log.committed x.1.path
      case none => rfl
      case some k =>
        have : k ≠ s.opened := Nat.ne_of_lt (hh.below x hx k (mem_of_holder ho))
        have hp : (s.push nesting).path = s.opened :: s.path := rfl
        simp [hp, this]
    exact hd ▸ h.ran

-- Nothing is registered and no hook runs.
theorem stay (hh : Holding s.path opened log.committed log) (hne : s.path ≠ [])
    (hc : .committed ∉ marks) (hoc : marks.filterMap Mark.onCommit? = [])
    (hor : marks.filterMap Mark.onRollback? = [])
    (he : (marks.filterMap Mark.event?).filterMap Event.hook? = []) (hp : s'.path = s.path)
    (hl : ∀ x ∈ s'.live, ∃ f, (x.1, f) ∈ s.live ∧ f.onCommit = x.2.onCommit ∧
      f.onRollback = x.2.onRollback) :
    Hooked s' (log ++ m.log s.path marks) := by
  have ⟨k, rest, hk⟩ := List.exists_cons_of_ne_nil hne
  rw [hk] at hh
  constructor
  case onCommit =>
    intro x hx
    have ⟨f, hf, hfc, _⟩ := hl x hx
    rw [hk, hh.held_append hc, hoc, ite_self, List.append_nil, ← hfc]
    exact h.onCommit _ hf
  case onRollback =>
    intro x hx
    have ⟨f, hf, _, hfr⟩ := hl x hx
    rw [hk, hh.held_append hc, hor, ite_self, List.append_nil, ← hfr]
    exact h.onRollback _ hf
  case ran =>
    rw [Log.hooks_append, he, List.append_nil, Log.dropped, hp, hk, hh.share_append hc, hor, ite_self,
      List.append_nil, ← hk]
    exact h.ran

theorem registered (hn : Numbered s.path opened) (hh : Holding s.path opened log.committed log)
    (hl : s.live = (k, f) :: rest) (hc : .committed ∉ marks)
    (hoc : marks.filterMap Mark.onCommit? = cs) (hor : marks.filterMap Mark.onRollback? = rs)
    (he : (marks.filterMap Mark.event?).filterMap Event.hook? = []) :
    Hooked { s with live := (k, f.register cs rs) :: rest } (log ++ m.log s.path marks) := by
  have hk : s.path = k :: rest.map Prod.fst := Scene.path_eq_cons hl
  have hlive := h.onCommit
  have hlive' := h.onRollback
  rw [hl, List.forall_mem_cons] at hlive hlive'
  have hne : ∀ x ∈ rest, k ∉ [x.1] := fun x hx hkx => by
    have := (hk ▸ hn).lt_head (List.mem_map_of_mem hx)
    simp at hkx
    omega
  rw [hk] at hh ⊢
  constructor
  case onCommit =>
    refine List.forall_mem_cons.mpr ⟨?_, fun x hx => ?_⟩
    · rw [hh.held_append hc, if_pos (List.mem_singleton_self _), hoc, ← hlive.1]
      rfl
    · rw [hh.held_append hc, if_neg (hne x hx), List.append_nil]
      exact hlive.2 x hx
  case onRollback =>
    refine List.forall_mem_cons.mpr ⟨?_, fun x hx => ?_⟩
    · rw [hh.held_append hc, if_pos (List.mem_singleton_self _), hor, ← hlive'.1]
      rfl
    · rw [hh.held_append hc, if_neg (hne x hx), List.append_nil]
      exact hlive'.2 x hx
  case ran =>
    have hp : Scene.path { s with live := (k, f.register cs rs) :: rest } = s.path := hk.symm
    rw [Log.hooks_append, he, List.append_nil, Log.dropped, hh.share_append hc,
      if_neg (by simp [hp, hk]), List.append_nil, hp]
    exact h.ran

theorem merged (hn : Numbered s.path opened) (hh : Holding s.path opened log.committed log)
    (hl : s.live = (k, f) :: (j, g) :: rest) (he : es.filterMap Event.hook? = []) :
    Hooked { s with live := (j, g.inherit f) :: rest }
      (log ++ m.log s.path (es.map .event ++ [.committed])) := by
  have hk : s.path = k :: j :: rest.map Prod.fst := Scene.path_eq_cons hl
  have hoc := h.onCommit
  have hor := h.onRollback
  rw [hl, List.forall_mem_cons, List.forall_mem_cons] at hoc hor
  rw [hk] at hh hn ⊢
  have hc : Mark.committed ∉ es.map Mark.event := by simp
  have hjk : j < k := hn.lt_head List.mem_cons_self
  -- The frame around has had its hooks before.
  have hj {f : Mark → Option String} (hnil : [Mark.committed].filterMap f = [])
      (hev : (es.map Mark.event).filterMap f = []) :
      Log.held f [j] (log ++ m.log (k :: j :: rest.map Prod.fst) (es.map .event ++ [.committed])) =
        log.held f [j] ++ log.held f [k] := by
    rw [hh.held_merge hn hc (List.mem_singleton_self j), List.filterMap_append, hnil, hev,
      List.append_nil, List.append_nil]
    exact hh.held_cons List.mem_cons_self (by simp) (by simpa using hjk)
  have hi {f : Mark → Option String} : ∀ x ∈ rest,
      Log.held f [x.1] (log ++ m.log (k :: j :: rest.map Prod.fst) (es.map .event ++ [.committed])) =
        log.held f [x.1] := fun x hx => by
    have hxj := hn.tail.lt_head (List.mem_map_of_mem hx)
    refine hh.held_merge_of_not_mem hn hc ?_ ?_ <;> rw [List.mem_singleton] <;> omega
  constructor
  case onCommit =>
    refine List.forall_mem_cons.mpr ⟨?_, fun x hx => (hoc.2.2 x hx).trans (hi x hx).symm⟩
    rw [hj rfl (Mark.filterMap_event_eq_nil _ (fun _ => rfl) es), ← hoc.1, ← hoc.2.1]
    rfl
  case onRollback =>
    refine List.forall_mem_cons.mpr ⟨?_, fun x hx => (hor.2.2 x hx).trans (hi x hx).symm⟩
    rw [hj rfl (Mark.filterMap_event_eq_nil _ (fun _ => rfl) es), ← hor.1, ← hor.2.1]
    rfl
  case ran =>
    have hp : Scene.path { s with live := (j, g.inherit f) :: rest } = j :: rest.map Prod.fst := rfl
    have hd : log.share Mark.onRollback? (fun o => (if o = some k then some j else o).any
        (· ∉ j :: rest.map Prod.fst)) =
          log.dropped Mark.onRollback? (k :: j :: rest.map Prod.fst) := by
      refine Log.share_congr fun x _ => ?_
      cases holder log.committed x.1.path
      case none => simp
      case some i => by_cases hik : i = k <;> simp [hik]
    rw [Log.hooks_append, Mark.filterMap_concat _ rfl, he, List.append_nil, Log.dropped, hp,
      hh.share_merge hn hc, if_neg (by simp), List.append_nil, hd, ← hk]
    exact h.ran

theorem undone (hn : Numbered s.path opened) (hh : Holding s.path opened log.committed log)
    (hl : s.live = (k, f) :: p :: rest) (he : es.filterMap Event.hook? = []) :
    Hooked { s with live := p :: rest }
      (log ++ m.log s.path ((es ++ hookEvents f.onRollback).map .event)) := by
  have hk : s.path = k :: p.1 :: rest.map Prod.fst := Scene.path_eq_cons hl
  have hoc := h.onCommit
  have hor := h.onRollback
  rw [hl, List.forall_mem_cons] at hoc hor
  rw [hk] at hh hn ⊢
  have hc : Mark.committed ∉ (es ++ hookEvents f.onRollback).map Mark.event := by simp
  have hnil := Mark.filterMap_event_eq_nil Mark.onRollback? (fun _ => rfl)
  constructor
  case onCommit =>
    intro x hx
    rw [hh.held_append hc, Mark.filterMap_event_eq_nil Mark.onCommit? fun _ => rfl, ite_self,
      List.append_nil]
    exact hoc.2 x hx
  case onRollback =>
    intro x hx
    rw [hh.held_append hc, hnil, ite_self, List.append_nil]
    exact hor.2 x hx
  case ran =>
    have hp : Scene.path { s with live := p :: rest } = p.1 :: rest.map Prod.fst := rfl
    have hkn : ∀ i ∈ [k], i ∉ p.1 :: rest.map Prod.fst := by
      simp only [List.forall_mem_singleton]
      exact fun hmem => Nat.lt_irrefl k (hn.lt_head hmem)
    have hran := h.ran
    rw [hk] at hran
    rw [Log.hooks_append, Mark.filterMap_event, List.filterMap_append, he, filterMap_hook?_hooks,
      List.nil_append, Log.dropped, hp, hh.share_append hc, hnil, ite_self, List.append_nil,
      show f.onRollback = _ from hor.1]
    exact (hran.append_right _).trans (log.dropped_perm [k] hkn).symm

-- What is lost is what was dropped before, with what the open frames hold.
theorem rolledBack (hn : Numbered s.path opened) (hh : Holding s.path opened log.committed log)
    (hl : s.live ≠ [])
    (hh' : Holding [] opened' (Log.committed (log ++ m.log s.path (es.map .event ++ marks)))
      (log ++ m.log s.path (es.map .event ++ marks)))
    (hu : 0 ∉ log.committed) (hc : .committed ∉ marks) (hm : marks.filterMap Mark.event? = [])
    (hor : marks.filterMap Mark.onRollback? = []) (he : es.filterMap Event.hook? = s.rollbackHooks) :
    Log.Settled (log ++ m.log s.path (es.map .event ++ marks)) := by
  have ⟨k, rest, hk⟩ := List.exists_cons_of_ne_nil (Scene.path_ne_nil.mpr hl)
  have hc' : Mark.committed ∉ es.map Mark.event ++ marks := by simp [hc]
  have hu' : 0 ∉ Log.committed (log ++ m.log s.path (es.map .event ++ marks)) := by
    rwa [Log.committed_append, m.committed_log hc', List.append_nil]
  have hrb : s.rollbackHooks = s.path.flatMap fun k => log.held Mark.onRollback? [k] := by
    rw [Scene.rollbackHooks, Scene.path, List.flatMap_map]
    exact List.flatMap_congr h.onRollback
  refine ⟨log.hooks ++ s.rollbackHooks, ?_, ?_⟩
  · rw [Log.hooks_append, List.filterMap_append, Mark.filterMap_event, hm, List.append_nil, he,
      hh'.lasting_eq_nil hu', List.append_nil]
  · have hnil := Mark.filterMap_event_eq_nil Mark.onRollback? (fun _ => rfl)
    have hlost : Log.lost Mark.onRollback? (log ++ m.log s.path (es.map .event ++ marks)) =
        log.lost Mark.onRollback? := by
      rw [hk] at hh ⊢
      rw [Log.lost_eq, hh.share_append hc', List.filterMap_append, hnil, hor, List.append_nil,
        ite_self, List.append_nil, ← Log.lost_eq]
    have hall : log.lost Mark.onRollback? ~
        log.dropped Mark.onRollback? s.path ++ log.held Mark.onRollback? s.path := by
      have hd : log.dropped Mark.onRollback? [] ~ _ :=
        log.dropped_perm s.path fun _ _ => List.not_mem_nil
      rwa [List.append_nil, ← Log.lost_eq_dropped] at hd
    rw [hlost, hrb]
    exact (h.ran.append (hh.held_perm hn List.suffix_rfl).symm).trans hall.symm

-- What the outermost frame holds lasts, and nothing else is lost.
theorem committed (hh : Holding [0] opened log.committed log) (hl : s.live = [(0, f)])
    (he : es.filterMap Event.hook? = f.onCommit) :
    Log.Settled (log ++ m.log [0] (es.map .event ++ [.committed])) := by
  have hc : Mark.committed ∉ es.map Mark.event := by simp
  have hoc := h.onCommit (0, f) (by simp [hl])
  have hlast : Log.lasting Mark.onCommit? (log ++ m.log [0] (es.map .event ++ [.committed])) =
      f.onCommit := by
    rw [hh.lasting_commit hc, List.filterMap_append, Mark.filterMap_event_eq_nil Mark.onCommit? fun _ => rfl]
    exact (List.append_nil _).trans hoc.symm
  have hlost : Log.lost Mark.onRollback? (log ++ m.log [0] (es.map .event ++ [.committed])) =
      log.dropped Mark.onRollback? s.path := by
    rw [Log.lost_eq, hh.share_commit hc, if_neg (by simp), List.append_nil]
    refine Log.share_congr fun x _ => ?_
    cases holder log.committed x.1.path
    case none => rfl
    case some i => by_cases hi : i = 0 <;> simp [hi, Scene.path, hl]
  refine ⟨log.hooks, ?_, hlost ▸ h.ran⟩
  rw [Log.hooks_append, Mark.filterMap_concat _ rfl, he, hlast]

-- As long as the transaction goes on its hooks are kept, and once it has ended they are settled.
theorem shift (hr : Reached settings n s log) (ht : Shift settings n m s marks s') :
    (s'.live ≠ [] → Hooked s' (log ++ m.log s.path marks)) ∧
      (s'.live = [] → Log.Settled (log ++ m.log s.path marks)) := by
  have hn := hr.numbered
  have hh := hr.holding
  have hl := ht.live_ne_nil
  have hne := Scene.path_ne_nil.mpr hl
  have hh' := hh.turn (m := m) hn ht.turn
  have hu := hr.zero_not_mem hl
  have same : ∀ x ∈ s.live, ∃ f, (x.1, f) ∈ s.live ∧ f.onCommit = x.2.onCommit ∧
      f.onRollback = x.2.onRollback := fun x hx => ⟨x.2, hx, rfl, rfl⟩
  cases ht
  case opened =>
    rw [Move.log, List.map_nil, List.append_nil]
    exact ⟨fun _ => h.push hh _, fun hl => absurd hl (List.cons_ne_nil _ _)⟩
  case isolation | readOnly =>
    exact ⟨fun _ => h.stay hh hne (by simp) rfl rfl rfl rfl same, fun hl' => absurd hl' hl⟩
  case onCommit hl' =>
    refine ⟨fun _ => ?_, fun hl => absurd hl (List.cons_ne_nil _ _)⟩
    exact h.registered hn hh hl' (by simp) rfl rfl rfl
  case onRollback hl' =>
    refine ⟨fun _ => ?_, fun hl => absurd hl (List.cons_ne_nil _ _)⟩
    exact h.registered hn hh hl' (by simp) rfl rfl rfl
  case ran es task sql sent succeeded _ hm ht hc =>
    refine ⟨fun _ => ?_, fun hl' => absurd hl' (by simpa [Scene.prepared] using hl)⟩
    refine h.stay hh hne (by simp) (Mark.filterMap_event_eq_nil _ (fun _ => rfl) _)
      (Mark.filterMap_event_eq_nil _ (fun _ => rfl) _) ?_ s.path_prepared ?_
    · simp only [Mark.filterMap_event, List.filterMap_append, filterMap_hook?_told,
        ht.filterMap_hook?, List.nil_append, List.append_nil]
      rfl
    · exact List.forall_mem_map.mpr fun x hx => ⟨x.2, hx, rfl, rfl⟩
  case committed k f es hl' ht =>
    have hk : s.path = [k] := Scene.path_eq_cons hl'
    rw [hk] at hn hh ⊢
    cases hn.eq_zero
    refine ⟨fun hl => absurd rfl hl, fun _ => h.committed hh hl' ?_⟩
    simp [ht.filterMap_hook?]
  case merged hl' ht =>
    refine ⟨fun _ => ?_, fun hl => absurd hl (List.cons_ne_nil _ _)⟩
    exact h.merged hn hh hl' ht.filterMap_hook?
  case unreleased ht =>
    refine ⟨fun _ => ?_, fun hl' => absurd hl' hl⟩
    refine h.stay hh hne (by simp) (Mark.filterMap_event_eq_nil _ (fun _ => rfl) _)
      (Mark.filterMap_event_eq_nil _ (fun _ => rfl) _) ?_ rfl same
    rw [Mark.filterMap_event, ht.filterMap_hook?]
  case rolledBack es _ hw ht =>
    refine ⟨fun hl => absurd rfl hl, fun _ => h.rolledBack hn hh hl hh' hu (by simp) rfl rfl ?_⟩
    simp [ht.filterMap_hook?]
  case undone hl' _ ht =>
    refine ⟨fun _ => ?_, fun hl => absurd hl (List.cons_ne_nil _ _)⟩
    exact h.undone hn hh hl' ht.filterMap_hook?
  case aborted told cs s₁ es e es' r _ hc ht hr' =>
    have hrb : s₁.rollbackHooks = s.rollbackHooks := by
      cases hc
      case preparation => simp [Scene.rollbackHooks, Scene.prepared, List.flatMap_map, Frame.established]
      all_goals rfl
    have htold : told.filterMap Event.hook? = [] := by cases hc <;> simp
    have hend : Log.Settled (log ++ m.log s.path ((told ++ es ++ es' ++
        hookEvents s₁.rollbackHooks).map .event ++ [])) := by
      refine h.rolledBack hn hh hl (?_ : Holding [] s₁.opened _ _) hu (by simp) rfl rfl ?_
      · rwa [List.append_nil]
      · simp [htold, ht.filterMap_hook?, hr'.filterMap_hook?, hrb]
    rw [List.append_nil] at hend
    exact ⟨fun hl => absurd rfl hl, fun _ => hend⟩

end Hooked

theorem Reached.hooked (h : Reached settings n s log) :
    (s.live ≠ [] → Hooked s log) ∧ (s.live = [] → log.Settled) := by
  induction h
  case start => exact ⟨fun _ => .start, fun hl => absurd hl (by simp [Scene.start])⟩
  case shift m hr ht ih => exact (ih.1 ht.live_ne_nil).shift hr ht

-- Once nobody holds the transaction any more, each hook for a rollback has run that was registered in a
-- frame that is lost, and after that, in the order of registration, each hook for a commit that was
-- registered in a frame that lasts. No hook has run twice, and no other one.
theorem History.settled (settings : TransactionSettings) (n : Nat) (world : World Notes)
    (moves : List Move) :
    let h := (History.start settings n world).run moves
    h.path = [] →
      ∃ undone, (h.session.world.trace.drop world.trace.length).filterMap Event.hook? =
          undone ++ h.log.lasting Mark.onCommit? ∧
        undone ~ h.log.lost Mark.onRollback? := by
  intro h hp
  have hs : h.Sound settings n world := History.sound_run moves
  rw [hs.events_eq]
  exact hs.reached.hooked.2 (History.Sound.live_eq_nil hp)

-- One nested transaction commits and its hook waits for the outermost one. The next one is dropped.
theorem History.settled_of_two_nested :
    let config := { Config.standard with useNestedTransactions := true }
    let world : World Notes := .new ⟨"PostgreSQL", fun _ _ => .ok .none⟩ .blank
    let delete : Step := .execute fun draws => (.ok (.raw ⟨"DELETE FROM people", [], false⟩), draws)
    let moves : List Move :=
      [.step (.onCommit "outer"), .nested, .step delete, .step (.onCommit "kept"), .step .commit, .drop,
        .nested, .step (.onCommit "void"), .step (.onRollback "undo"), .step delete, .drop,
        .step .commit, .drop]
    let h := (start (.standard .empty .postgres config) 0 world).run moves
    let hooks := (h.session.world.trace.drop world.trace.length).filterMap Event.hook?
    h.path = [] ∧ hooks = ["undo", "outer", "kept"] ∧
      h.log.lasting Mark.onCommit? = ["outer", "kept"] ∧ h.log.lost Mark.onRollback? = ["undo"] ∧
      ∃ undone, hooks = undone ++ h.log.lasting Mark.onCommit? ∧ undone ~ h.log.lost Mark.onRollback? := by
  intro config world delete moves h hooks
  have hp : h.path = [] := by decide +kernel
  refine ⟨hp, ?_, ?_, ?_, ?settled⟩
  case settled => with_reducible exact History.settled _ _ world moves hp
  all_goals decide +kernel

end PolySql
