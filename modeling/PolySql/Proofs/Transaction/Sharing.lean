import PolySql.Proofs.Transaction.Crowd
import PolySql.Proofs.Transaction.Durability

namespace PolySql

-- The scenes of a transaction with the marks that were left on the way. One whose outermost handle was
-- dropped may also be given up in the background.
inductive Comes (settings : TransactionSettings) (n : Nat) : Bool → Scene → Log → Prop
  | reached (orphaned : Bool) : Reached settings n s log → Comes settings n orphaned s log
  | forsaken :
    Reached settings n s log →
    s.live ≠ [] →
    Tried n (s.whole .rollback) es r →
    Comes settings n true (s.ended .rolledBack)
      (log ++ Move.drop.log s.path ((es ++ hookEvents s.rollbackHooks).map .event))

section

variable {settings : TransactionSettings} {n : Nat} {s : Scene} {log : Log}

-- Only a transaction that has ended may have been given up.
theorem Comes.reached_of_live (h : Comes settings n orphaned s log) (hl : s.live ≠ []) :
    Reached settings n s log := by
  cases h
  case reached h => exact h
  case forsaken => exact absurd rfl hl

theorem Comes.mono (h : Comes settings n orphaned s log) (ho : orphaned = true → orphaned' = true) :
    Comes settings n orphaned' s log := by
  cases h
  case reached h => exact .reached _ h
  case forsaken h hl ht => exact ho rfl ▸ .forsaken h hl ht

theorem Reached.durable (h : Reached settings n s log) :
    (Database.replay settings.dialect n log.events .blank).durable = log.lasting Mark.accepted? := by
  have hm := h.mirrors
  by_cases hl : s.live = []
  case pos => exact hm.lasting hl
  case neg => rw [(hm.tracks hl).durable, h.holding.lasting_eq_nil (h.zero_not_mem hl)]

theorem Comes.durable (h : Comes settings n orphaned s log) :
    (Database.replay settings.dialect n log.events .blank).durable = log.lasting Mark.accepted? := by
  cases h
  case reached h => exact h.durable
  case forsaken s log es r h hl ht =>
    have hc : Mark.committed ∉ (es ++ hookEvents s.rollbackHooks).map Mark.event := by simp
    have hh := h.holding.turn (m := .drop) h.numbered (.rolledBack (Scene.path_ne_nil.mpr hl) hc)
    have hnc : .commit ∉ s.whole .rollback := by simp [Scene.whole]
    let db := Database.replay settings.dialect n log.events .blank
    have hd : (Database.replay settings.dialect n (es ++ hookEvents s.rollbackHooks) db).durable =
        db.durable := by
      rw [Database.replay_append, Database.replay_hooks, Database.durable_replay_tried ht hnc]
    have hm : Database.Mirrors settings.nesting (s.ended .rolledBack) _ _ :=
      (h.mirrors.tracks hl).mirrors_ended hh (h.zero_not_mem hl) hc hd
    rw [Log.events_append, Move.events_log, Mark.filterMap_event, Database.replay_append]
    exact hm.lasting rfl

end

-- Statements and commits are what the effects that last depend on.
def Mark.isEssential (x : Mark) : Bool :=
  x.isStatement || x.isCommitted

def Log.essence (log : Log) : List (List Nat × Mark) :=
  (log.filter (·.2.isEssential)).map fun x => (x.1.path, x.2)

section

variable {log log' : Log}

@[simp]
theorem Log.essence_append (log log' : Log) : essence (log ++ log') = log.essence ++ log'.essence := by
  simp [essence]

theorem Log.committed_eq_essence (log : Log) :
    log.committed = (log.essence.filter (·.2.isCommitted)).filterMap (·.1.head?) := by
  have hc : ∀ x : Site × Mark, (x.2.isCommitted && x.2.isEssential) = x.2.isCommitted := fun x => by
    cases hx : x.2.isCommitted <;> simp [Mark.isEssential, hx]
  rw [essence, List.filter_map, List.filter_filter, List.filterMap_map]
  simp only [Function.comp_def, hc]
  rfl

theorem Log.lasting_eq_essence (log : Log) :
    log.lasting Mark.accepted? =
      (log.essence.filter fun x => x.1.all (· ∈ log.committed)).filterMap (·.2.accepted?) := by
  rw [essence, List.filter_map, List.filterMap_map, List.filter_filter, lasting, pick,
    List.filterMap_filter, List.filterMap_filter]
  refine List.filterMap_congr fun x _ => ?_
  cases ha : x.2.accepted?
  case none => simp [ha]
  case some =>
    have hs := isStatement_of_accepted (by rw [ha, Option.isSome_some])
    simp [ha, Mark.isEssential, hs]

theorem Log.lasting_congr (h : log.essence = log'.essence) :
    log.lasting Mark.accepted? = log'.lasting Mark.accepted? := by
  rw [lasting_eq_essence, lasting_eq_essence, committed_eq_essence, committed_eq_essence, h]

end

namespace Point

-- A transaction that is in several hands. Either it has ended, or all frames are active, and each nested
-- one belongs to a handle that is in use or waits to be rolled back for one that is gone.
structure Shared (settings : TransactionSettings) (n : Nat) (inUse gone : List Grip) (p : Point) :
    Prop where
  sound : p.Sound settings n
  valid : ∀ g ∈ inUse ++ gone, g.Valid
  length : p.path.length = p.stack.inward.length
  last : p.path.getLast? = some 0
  nested : 0 ∉ p.transaction.abandoned
  level : p.stack.status 0 = .active → ∀ f ∈ p.stack.inward, f.status = .active
  owned : p.stack.status 0 = .active →
    ∃ waiting ⊆ gone, Owned inUse waiting p.transaction.abandoned p.path

variable {settings : TransactionSettings} {n : Nat} {m : Move} {inUse gone : List Grip} {p p' : Point}

theorem shared_start : (start settings n).Shared settings n [⟨⟨0, true⟩, [0]⟩] [] where
  sound := sound_start
  valid := by simpa using ⟨rfl, rfl, rfl⟩
  length := rfl
  last := rfl
  nested := List.not_mem_nil
  level _ := List.forall_mem_singleton.mpr rfl
  owned _ := ⟨[], List.nil_subset _, .start⟩

theorem exists_active {s : Stack} (h : s.status 0 = .active) : ∃ f ∈ s.inward, f.status = .active := by
  rw [status_zero] at h
  cases hl : s.inward.getLast?
  case none => simp [hl] at h
  case some f => exact ⟨f, List.mem_of_getLast? hl, by simpa [hl] using h⟩

theorem Ready.live_ne_nil (h : p.Ready n k outer f below) : p.scene.live ≠ [] := by
  simp [h.live_eq]

theorem Leads.comes (h : Leads settings n m p marks p') (hl : p.scene.live ≠ [])
    (hc : Comes settings n orphaned p.scene log) :
    Comes settings n orphaned' p'.scene (log ++ m.log p.path marks) :=
  .reached _ (h.reached (hc.reached_of_live hl))

namespace Shared

variable (hs : p.Shared settings n inUse gone)

include hs

theorem valid_of_mem (hg : g ∈ inUse) : g.Valid :=
  hs.valid g (List.mem_append_left _ hg)

theorem valid_waiting (hw : waiting ⊆ gone) : ∀ g ∈ inUse ++ waiting, g.Valid :=
  List.forall_mem_append.mpr
    ⟨fun _ hg => hs.valid_of_mem hg, fun g hg => hs.valid g (List.mem_append_right _ (hw hg))⟩

theorem exists_path : ∃ k outer, p.path = k :: outer ∧ p.stack.top = outer.length := by
  cases hp : p.path
  case nil =>
    have hl := hs.last
    simp [hp] at hl
  case cons k outer =>
    have ⟨f, below, hf, hl⟩ := hs.sound.exists_frames hp
    exact ⟨k, outer, rfl, (Stack.top_eq hf).trans hl⟩

theorem path_length : p.path.length = p.stack.top + 1 := by
  have ⟨k, outer, hp, ht⟩ := hs.exists_path
  rw [hp, ht, List.length_cons]

theorem ready (ho : p.stack.Open depth) :
    ∃ k outer f below, p.Ready n k outer f below ∧ depth = outer.length := by
  have ⟨k, outer, hp, ht⟩ := hs.exists_path
  have hd : depth = outer.length := ho.innermost.trans ht
  have ⟨f, below, h⟩ := hs.sound.ready hp (hd ▸ ho)
  exact ⟨k, outer, f, below, h, hd⟩

-- The innermost frame is active as long as the outermost one is.
theorem open_top_iff : p.stack.Open p.stack.top ↔ p.stack.status 0 = .active where
  mp ho := by
    have ⟨k, outer, f, below, h, _⟩ := hs.ready ho
    exact h.status_zero_eq
  mpr ha := by
    have ⟨k, outer, hp, ht⟩ := hs.exists_path
    have ⟨f, below, hf, hl⟩ := hs.sound.exists_frames hp
    rw [ht, ← hl, Stack.open_length_iff hf]
    exact hs.level ha f (hf ▸ List.mem_cons_self)

theorem active (h₀ : p.stack.status 0 = .active) (hd : depth < p.path.length) :
    p.stack.status depth = .active := by
  rw [hs.length, Stack.inward, List.length_reverse] at hd
  rw [Stack.status, List.getElem?_eq_getElem hd]
  exact hs.level h₀ _ (List.mem_reverse.mpr (List.getElem_mem hd))

theorem status_zero_of_open (ho : p.stack.Open depth) : p.stack.status 0 = .active :=
  hs.open_top_iff.mp (ho.innermost ▸ ho)

-- A handle can do something only while the frames are its own and those around it.
theorem lineage_of_open (hg : g ∈ inUse) (ho : p.stack.Open g.handle.depth) : g.lineage = p.path := by
  have ⟨waiting, hw, h⟩ := hs.owned (hs.status_zero_of_open ho)
  refine h.lineage_eq (List.mem_append_left _ hg) (hs.valid_of_mem hg) hs.last ?_
  rw [hs.path_length, ho.innermost]

theorem connection_of_open (ho : p.stack.Open depth) : p.transaction.connection = some n := by
  have ⟨k, outer, f, below, h, _⟩ := hs.ready ho
  exact h.connection

-- Nothing changes about whose the frames are.
theorem stays {t : Transaction} (ht : (p.withTransaction t).Sound settings n)
    (ha : t.abandoned = p.transaction.abandoned)
    (hl : t.stack.status 0 = .active →
      p.stack.status 0 = .active ∧ ∀ f ∈ t.stack.inward, f.status = .active) :
    (p.withTransaction t).Shared settings n inUse gone where
  sound := ht
  valid := hs.valid
  length := by
    refine ht.aligned.resolve_right fun ⟨hp, _⟩ => ?_
    have ⟨k, outer, hp', _⟩ := hs.exists_path
    exact absurd (hp'.symm.trans hp) (by simp)
  last := hs.last
  nested := ha.symm ▸ hs.nested
  level h := (hl h).2
  owned h := by
    have ⟨waiting, hw, ho⟩ := hs.owned (hl h).1
    exact ⟨waiting, hw, ha.symm ▸ ho⟩

end Shared

-- The innermost frame has ended and is forgotten.
theorem Sound.shared_popped (hs : p.Sound settings n) (hv : ∀ g ∈ inUse ++ gone, g.Valid)
    (hp : p.path = k :: j :: rest) (hl : p.path.getLast? = some 0)
    (hn : 0 ∉ p.transaction.abandoned) (ha : p.stack.status (rest.length + 1) ≠ .active)
    (ho : p.stack.status 0 = .active →
      ∃ waiting ⊆ gone, Owned inUse waiting p.transaction.abandoned (j :: rest)) :
    p.popped.Shared settings n inUse gone := by
  obtain ⟨hs', hscene⟩ := hs.popped hp ha
  have hz : p.popped.stack.status 0 = p.stack.status 0 := congrArg Scene.status hscene
  obtain ⟨f, below, hf, hlen⟩ := hs.exists_frames hp
  have hpath : p.popped.path = j :: rest := by rw [Point.popped, hp, List.tail_cons]
  have hin : p.popped.stack.inward = below := by
    have hb : below ≠ [] := List.ne_nil_of_length_eq_add_one hlen
    have hd : p.path.length - 1 = below.length := by simp [hp, hlen]
    rw [Point.popped, Point.stack, hd, Stack.pop_length hf hb, Stack.inward_withInward]
  constructor
  case sound => exact hs'
  case valid => exact hv
  case length => rw [hpath, hin, hlen]
  case last => rw [hpath, ← hl, hp, List.getLast?_cons_cons]
  case nested => exact hn
  case level =>
    rw [hz, hin]
    intro h₀
    have hst := hs.standing
    rw [Standing, hf, List.tail_cons] at hst
    obtain ⟨g, hg, hga⟩ := exists_active h₀
    exact hst.resolve_right fun hall => hall g (hf ▸ hg) hga
  case owned =>
    rw [hz, hpath]
    exact ho

end Point

end PolySql
