import PolySql.Proofs.Transaction.Database
import PolySql.Proofs.Transaction.History
import PolySql.Proofs.Transaction.Share

open scoped List

namespace PolySql

-- The database of a transaction that goes on.
structure Database.Tracks (nesting : Nesting) (path : List Nat) (log : Log) (db : Database) : Prop where
  durable : db.durable = []
  pending : db.pending = log.held Mark.accepted? path
  savepoints : nesting.snapshots log.reach (Log.held Mark.accepted? · log) path <+ db.savepoints
  nodup : (db.savepoints.map Prod.fst).Nodup
  names : ∀ p ∈ db.savepoints, ∃ k < log.reach, p.1 = savepointName k

namespace Database.Tracks

variable {nesting : Nesting} {m : Move} {path rest : List Nat} {k j : Nat} {marks : List Mark}
  {log : Log} {db : Database}

theorem start : Tracks nesting [0] [] blank where
  durable := rfl
  pending := rfl
  savepoints := by
    cases nesting <;> simp [Nesting.snapshots, Nesting.saved, Log.reach]
  nodup := .nil
  names := by simp [blank]

theorem push (h : Tracks nesting path log db) (hh : Holding path opened log.committed log)
    (hle : log.reach ≤ opened) : Tracks nesting (opened :: path) log db where
  durable := h.durable
  pending := by rw [hh.held_push, h.pending]
  savepoints := by
    rw [Nesting.snapshots, Nesting.saved_of_le hle]
    exact h.savepoints
  nodup := h.nodup
  names := h.names

-- What the innermost frame does is nothing to those around it.
theorem snapshots_append (hn : Numbered (k :: rest) opened)
    (hh : Holding (k :: rest) opened log.committed log) (hc : .committed ∉ marks) :
    nesting.snapshots b (Log.held Mark.accepted? · (log ++ m.log (k :: rest) marks)) (k :: rest) =
      nesting.snapshots b (Log.held Mark.accepted? · log) (k :: rest) := by
  refine Nesting.snapshots_congr fun i outer hs => ?_
  have hk : k ∉ outer := fun ho => by
    rcases List.suffix_cons_iff.mp hs with he | hs
    · have hr : outer = rest := (List.cons.inj he).2
      exact absurd (hn.lt_head (hr ▸ ho)) (Nat.lt_irrefl k)
    · exact absurd (hn.lt_head (hs.mem (List.mem_cons_of_mem _ ho))) (Nat.lt_irrefl k)
  rw [hh.held_append hc, if_neg hk, List.append_nil]

-- A frame that has had to do with no statement holds none.
theorem held_of_reach_le (hn : Numbered path opened) (hs : k :: rest <:+ path)
    (hk : log.reach ≤ k) : log.held Mark.accepted? rest = log.held Mark.accepted? path := by
  refine Log.share_congr_of_isSome fun x hx hsome => ?_
  cases ho : holder log.committed x.1.path
  case none => rfl
  case some i =>
    have hst := isStatement_of_accepted hsome
    have hi : i < k := Nat.lt_of_lt_of_le (Log.lt_reach hx hst i (mem_of_holder ho)) hk
    have ⟨newer, hnew⟩ := hs
    have hd := hn.descending
    rw [← hnew] at hd ⊢
    have hgt := (List.pairwise_append.mp hd).2.2
    have hne : i ∉ newer := fun hm => by
      have := hgt i hm k List.mem_cons_self
      omega
    simp [hne, Nat.ne_of_lt hi]

theorem controls_savepoints (ks : List Nat) :
    db.controls d (ks.map (.savepoint ∘ savepointName)) = { db with
      savepoints := (ks.map fun k => (savepointName k, db.pending)).reverse ++ db.savepoints } := by
  induction ks generalizing db
  case nil => rfl
  case cons k rest ih =>
    rw [List.map_cons, controls, List.foldl_cons]
    refine ih.trans ?_
    simp [control]

-- The controls that are due make the savepoints that are lacking.
theorem controls_due {s : Scene} (hb : s.PreparedTo b) (hs : s.Saved nesting) :
    db.controls d (s.due effective) = { db with
      savepoints := ((nesting.lacking b s.path).map fun k => (savepointName k, db.pending)).reverse ++
        db.savepoints } := by
  rw [hb.due_eq hs, controls, List.foldl_append]
  have hbegin : (if s.begun then []
      else [Control.begin (s.isolation.map effective) s.readOnly]).foldl (control d) db = db := by
    split <;> rfl
  rw [hbegin]
  exact controls_savepoints _

-- The savepoints that were lacking are made, and then a statement runs.
theorem ran (h : Tracks nesting (k :: rest) log db) (hn : Numbered (k :: rest) opened)
    (hh : Holding (k :: rest) opened log.committed log) (hc : .committed ∉ marks)
    (hst : ∃ x ∈ marks, x.isStatement = true) :
    Tracks nesting (k :: rest) (log ++ m.log (k :: rest) marks)
      { durable := db.durable
        pending := db.pending ++ marks.filterMap Mark.accepted?
        savepoints :=
          ((nesting.lacking log.reach (k :: rest)).map fun i => (savepointName i, db.pending)).reverse ++
            db.savepoints } where
  durable := h.durable
  pending := by rw [hh.held_append hc, if_pos List.mem_cons_self, h.pending]
  savepoints := by
    have hp : ∀ i outer, i :: outer <:+ k :: rest → log.reach ≤ i →
        log.held Mark.accepted? outer = db.pending :=
      fun i outer hs hi => h.pending ▸ held_of_reach_le hn hs hi
    rw [snapshots_append hn hh hc, Nesting.snapshots_of_prepared hn.descending (m.lt_reach hst) hp]
    exact h.savepoints.append_left _
  nodup := by
    rw [List.map_append, List.map_reverse, List.map_map]
    refine List.nodup_append.mpr ⟨List.nodup_reverse.mpr ?_, h.nodup, ?_⟩
    · exact (Nesting.nodup_lacking hn.descending).map fun _ _ he => savepointName_injective he
    · intro a ha c hc' hac
      obtain ⟨i, hi, rfl⟩ := List.mem_map.mp (List.mem_reverse.mp ha)
      obtain ⟨p, hp, rfl⟩ := List.mem_map.mp hc'
      have ⟨i', hi', he⟩ := h.names p hp
      have := savepointName_injective (hac.trans he)
      have := (Nesting.mem_lacking.mp hi).2.1
      omega
  names := by
    refine List.forall_mem_append.mpr ⟨fun p hp => ?_, fun p hp => ?_⟩
    · obtain ⟨i, hi, rfl⟩ := List.mem_map.mp (List.mem_reverse.mp hp)
      exact ⟨i, m.lt_reach hst i (Nesting.mem_lacking.mp hi).1, rfl⟩
    · have ⟨i, hi, he⟩ := h.names p hp
      exact ⟨i, Nat.lt_of_lt_of_le hi Log.reach_le_append, he⟩

-- The savepoint of the innermost frame is released, if it has one.
theorem release (h : Tracks nesting (k :: rest) log db) :
    let db' := db.controls d ((nesting.saved log.reach k).map (.release ∘ savepointName))
    db'.durable = db.durable ∧ db'.pending = db.pending ∧ db'.savepoints <+ db.savepoints ∧
      nesting.snapshots log.reach (Log.held Mark.accepted? · log) rest <+ db'.savepoints := by
  have hs := h.savepoints
  rw [Nesting.snapshots] at hs
  have hrest := (List.sublist_append_right _ _).trans hs
  rcases nesting.saved_eq log.reach k with hk | hk
  case inl =>
    rw [hk]
    exact ⟨rfl, rfl, .refl _, hrest⟩
  case inr =>
    rw [hk, List.map_singleton, List.singleton_append] at hs
    obtain ⟨older, hd, hr, ho⟩ := dropWhile_of_sublist hs h.nodup
    rw [hk]
    simp only [controls, List.map_singleton, List.foldl_cons, List.foldl_nil, Function.comp_apply,
      control, since, hd]
    cases d.supports .releaseSavepoint
    case true => exact ⟨rfl, rfl, (List.sublist_cons_self _ _).trans ho, hr⟩
    case false => exact ⟨rfl, rfl, .refl _, hrest⟩

-- What the innermost frame did is undone.
theorem rollbackTo (h : Tracks .savepoints (k :: j :: rest) log db)
    (hn : Numbered (k :: j :: rest) opened) :
    let db' := db.controls d ((Nesting.savepoints.saved log.reach k).map (.rollbackTo ∘ savepointName))
    db'.durable = db.durable ∧ db'.pending = log.held Mark.accepted? (j :: rest) ∧
      db'.savepoints <+ db.savepoints ∧
      Nesting.savepoints.snapshots log.reach (Log.held Mark.accepted? · log) (j :: rest) <+
        db'.savepoints := by
  have hs := h.savepoints
  rw [Nesting.snapshots] at hs
  have hrest := (List.sublist_append_right _ _).trans hs
  rcases Nesting.savepoints.saved_eq log.reach k with hk | hk
  case inl =>
    have hle := Nesting.le_of_saved hn.ne_zero hk
    rw [hk]
    exact ⟨rfl, h.pending.trans (held_of_reach_le hn List.suffix_rfl hle).symm, .refl _, hrest⟩
  case inr =>
    rw [hk, List.map_singleton, List.singleton_append] at hs
    obtain ⟨older, hd, hr, ho⟩ := dropWhile_of_sublist hs h.nodup
    rw [hk]
    simp only [controls, List.map_singleton, List.foldl_cons, List.foldl_nil, Function.comp_apply,
      control, since, hd, true_and]
    exact ⟨ho, hr.cons _⟩

-- What has been said of the savepoints holds of some of them, too.
theorem of_sublist {db' : Database} (h : Tracks nesting path log db)
    (hs : db'.savepoints <+ db.savepoints) (hr : log'.reach = log.reach) (hd : db'.durable = db.durable)
    (hp : db'.pending = log'.held Mark.accepted? path')
    (hsnap : nesting.snapshots log.reach (Log.held Mark.accepted? · log') path' <+ db'.savepoints) :
    Tracks nesting path' log' db' where
  durable := hd.trans h.durable
  pending := hp
  savepoints := hr.symm ▸ hsnap
  nodup := (hs.map _).nodup h.nodup
  names := fun p hp => hr.symm ▸ h.names p (hs.subset hp)

theorem quiet (h : Tracks nesting (k :: rest) log db) (hn : Numbered (k :: rest) opened)
    (hh : Holding (k :: rest) opened log.committed log) (hc : .committed ∉ marks)
    (hq : ∀ x ∈ marks, x.isStatement = false) :
    Tracks nesting (k :: rest) (log ++ m.log (k :: rest) marks) db := by
  refine h.of_sublist (.refl _) (m.reach_append hq) rfl ?_ ?_
  · rw [hh.held_append hc, filterMap_accepted?_of_quiet hq, ite_self, List.append_nil, h.pending]
  · rw [snapshots_append hn hh hc]
    exact h.savepoints

theorem merged (h : Tracks nesting (k :: j :: rest) log db)
    (hn : Numbered (k :: j :: rest) opened)
    (hh : Holding (k :: j :: rest) opened log.committed log) (hc : .committed ∉ marks)
    (hq : ∀ x ∈ marks, x.isStatement = false) :
    Tracks nesting (j :: rest) (log ++ m.log (k :: j :: rest) (marks ++ [.committed]))
      (db.controls d ((nesting.saved log.reach k).map (.release ∘ savepointName))) := by
  have ⟨hd, hp, hs, hsnap⟩ := h.release (d := d)
  have hq' : ∀ x ∈ marks ++ [.committed], x.isStatement = false :=
    List.forall_mem_append.mpr ⟨hq, by simp [Mark.isStatement]⟩
  refine h.of_sublist hs (m.reach_append hq') hd ?_ ?_
  · rw [hh.held_merge hn hc List.mem_cons_self, filterMap_accepted?_of_quiet hq', List.append_nil, hp,
      h.pending]
  · refine (Nesting.snapshots_congr fun i outer hsuf => ?_) ▸ hsnap
    have hmem : ∀ i ∈ outer, i ∈ rest := fun i hi => by
      rcases List.suffix_cons_iff.mp hsuf with he | hsuf
      · exact (List.cons.inj he).2 ▸ hi
      · exact hsuf.mem (List.mem_cons_of_mem _ hi)
    have hk : k ∉ outer := fun ho =>
      Nat.lt_irrefl k (hn.lt_head (List.mem_cons_of_mem _ (hmem k ho)))
    have hj : j ∉ outer := fun ho => Nat.lt_irrefl j (hn.tail.lt_head (hmem j ho))
    exact (hh.held_merge_of_not_mem hn hc hk hj).symm

theorem undone (h : Tracks .savepoints (k :: j :: rest) log db)
    (hn : Numbered (k :: j :: rest) opened)
    (hh : Holding (k :: j :: rest) opened log.committed log) (hc : .committed ∉ marks)
    (hq : ∀ x ∈ marks, x.isStatement = false) :
    Tracks .savepoints (j :: rest) (log ++ m.log (k :: j :: rest) marks)
      (db.controls d ((Nesting.savepoints.saved log.reach k).map (.rollbackTo ∘ savepointName))) := by
  have ⟨hd, hp, hs, hsnap⟩ := h.rollbackTo hn (d := d)
  have hheld : ∀ ks, Log.held Mark.accepted? ks (log ++ m.log (k :: j :: rest) marks) =
      log.held Mark.accepted? ks := fun ks => by
    rw [hh.held_append hc, filterMap_accepted?_of_quiet hq, ite_self, List.append_nil]
  refine h.of_sublist hs (m.reach_append hq) hd ?_ ?_
  · rw [hp, hheld]
  · exact (Nesting.snapshots_congr fun _ outer _ => (hheld outer).symm) ▸ hsnap

-- What the outermost frame holds lasts.
theorem committed {s : Scene} (h : Tracks nesting [0] log db) (hn : Numbered [0] opened)
    (hh : Holding [0] opened log.committed log) (hb : 0 < log.reach → s.begun = true)
    (hc : .committed ∉ marks) (hq : ∀ x ∈ marks, x.isStatement = false) :
    (db.controls d (s.whole .commit)).durable =
      Log.lasting Mark.accepted? (log ++ m.log [0] (marks ++ [.committed])) := by
  have hq' : ∀ x ∈ marks ++ [.committed], x.isStatement = false :=
    List.forall_mem_append.mpr ⟨hq, List.forall_mem_singleton.mpr rfl⟩
  rw [hh.lasting_commit hc, filterMap_accepted?_of_quiet hq', List.append_nil, ← h.pending]
  cases hbegun : s.begun
  case true => simp [Scene.whole, hbegun, controls, control, h.durable]
  case false =>
    -- Before the first statement there is nothing to commit.
    have hreach : log.reach ≤ 0 := Nat.le_of_not_lt fun hlt => absurd (hb hlt) (by simp [hbegun])
    have hnil := held_of_reach_le hn List.suffix_rfl hreach
    rw [Log.held_nil, ← h.pending] at hnil
    rw [Scene.whole, hbegun, ← hnil]
    exact h.durable

end Database.Tracks

-- The database of a transaction under way, or of one that has ended.
structure Database.Mirrors (nesting : Nesting) (s : Scene) (log : Log) (db : Database) : Prop where
  tracks : s.live ≠ [] → db.Tracks nesting s.path log
  lasting : s.live = [] → db.durable = log.lasting Mark.accepted?

namespace Database

variable {settings : TransactionSettings} {n : Nat} {m : Move} {s s' : Scene} {log : Log}
  {db : Database}

theorem Tracks.mirrors (h : db.Tracks nesting s.path log) (hl : s.live ≠ []) :
    db.Mirrors nesting s log :=
  ⟨fun _ => h, fun hn => absurd hn hl⟩

-- A transaction that is not committed leaves nothing.
theorem Tracks.mirrors_ended {db' : Database} (h : db.Tracks nesting s.path log)
    (hh : Holding [] opened (Log.committed (log ++ m.log s.path marks)) (log ++ m.log s.path marks))
    (hu : 0 ∉ log.committed) (hc : .committed ∉ marks) (hd : db'.durable = db.durable) :
    db'.Mirrors nesting (s'.ended status) (log ++ m.log s.path marks) where
  tracks hl := absurd rfl hl
  lasting _ := by
    have hu' : 0 ∉ Log.committed (log ++ m.log s.path marks) := by
      rwa [Log.committed_append, m.committed_log hc, List.append_nil]
    rw [hh.lasting_eq_nil hu', hd, h.durable]

theorem Tracks.mirrors_quiet (h : db.Tracks nesting s.path log) (hn : Numbered s.path opened)
    (hh : Holding s.path opened log.committed log) (hl : s.live ≠ []) (hp : s'.path = s.path)
    (hc : .committed ∉ marks) (hq : ∀ x ∈ marks, x.isStatement = false) :
    db.Mirrors nesting s' (log ++ m.log s.path marks) := by
  have ⟨k, rest, hk⟩ := List.exists_cons_of_ne_nil (Scene.path_ne_nil.mpr hl)
  rw [← Scene.path_ne_nil, ← hp] at hl
  refine Tracks.mirrors ?_ (Scene.path_ne_nil.mp hl)
  rw [hp]
  rw [hk] at h hn hh ⊢
  exact h.quiet hn hh hc hq

theorem durable_of_crucial (hc : Crucial settings m s told cs s')
    (ht : Tried n cs es (.error e)) : (replay d n es db).durable = db.durable := by
  cases hc
  case commit => rw [replay_tried_failed ht (s.length_whole _)]
  case preparation | rollbackTo => exact durable_replay_tried ht (by simp [Scene.due])
  case rollback => exact durable_replay_tried ht (by simp [Scene.whole])

theorem replay_statement (ht : task.isControl = false) :
    replay d n [.task n task sent succeeded] db = { db with
      pending := db.pending ++ [Mark.event (.task n task sent succeeded)].filterMap Mark.accepted? } := by
  cases succeeded
  case false =>
    have hn : [Mark.event (.task n task sent false)].filterMap Mark.accepted? = [] := rfl
    rw [hn, List.append_nil]
    rfl
  case true =>
    rw [replay, List.foldl_cons, List.foldl_nil, receive, if_pos rfl]
    cases task
    case control => cases ht
    all_goals rfl

theorem Tracks.shift (h : db.Tracks settings.nesting s.path log) (hr : Reached settings n s log)
    (ht : Shift settings n m s marks s') :
    (replay settings.dialect n (marks.filterMap Mark.event?) db).Mirrors settings.nesting s'
      (log ++ m.log s.path marks) := by
  have hn := hr.numbered
  have hh := hr.holding
  have hl := ht.live_ne_nil
  have hprep := hr.prepared hl
  have hsaved := hr.saved
  have hh' := hh.turn (m := m) hn ht.turn
  have hu := hr.zero_not_mem hl
  cases ht
  case opened =>
    refine Tracks.mirrors ?_ (by simp [Scene.push])
    rw [Move.log, List.map_nil, List.append_nil]
    exact h.push hh hprep.le
  case isolation | readOnly =>
    exact h.mirrors_quiet hn hh hl rfl (by simp) (by simp [Mark.isStatement])
  case onCommit hl' | onRollback hl' =>
    exact h.mirrors_quiet hn hh hl (by simp [Scene.path, hl']) (by simp) (by simp [Mark.isStatement])
  case ran es task sql sent succeeded _ hm ht hc =>
    obtain ⟨k, rest, hk⟩ := List.exists_cons_of_ne_nil (Scene.path_ne_nil.mpr hl)
    refine Tracks.mirrors ?_ (by simpa [Scene.prepared] using hl)
    rw [s.path_prepared]
    rw [Mark.filterMap_event, replay_append, replay_append, replay_append, replay_told, replay_told,
      replay_tried ht, controls_due hprep hsaved]
    rw [hk] at h hn hh ⊢
    let call := Event.task n task sent succeeded
    let marks := (es ++ settings.told (.beforeStatement sql) ++ [call] ++
      settings.told (.afterStatement sql)).map Mark.event
    have hst : Mark.isStatement (.event call) = true := by
      simp only [call, Mark.isStatement, hc, Bool.not_false]
    have hacc : marks.filterMap Mark.accepted? = [Mark.event call].filterMap Mark.accepted? :=
      filterMap_accepted?_between ((Quiet.tried ht).append (.told settings (.beforeStatement sql)))
        (.told settings (.afterStatement sql))
    have hcm : .committed ∉ marks := by simp [marks]
    have hran := h.ran (m := m) hn hh hcm ⟨.event call, by simp [marks], hst⟩
    rw [hacc] at hran
    rw [replay_statement hc]
    exact hran
  case committed k f es hl' ht =>
    have hp : s.path = [k] := Scene.path_eq_cons hl'
    rw [hp] at h hn hh ⊢
    cases hn.eq_zero
    refine ⟨fun hl => absurd rfl hl, fun _ => ?_⟩
    have hq := ((((Quiet.told settings .beforeCommit).append (.tried ht)).append
      (.told settings .afterCommit)).append (.hooks f.onCommit)).marks
    rw [Mark.filterMap_concat _ rfl, replay_append, replay_append, replay_append, replay_hooks,
      replay_told, replay_told, replay_tried ht]
    exact h.committed hn hh hprep.begun.mpr (by simp) hq
  case merged k f j g rest es hl' ht =>
    rw [Mark.filterMap_concat _ rfl]
    have hp : s.path = k :: j :: rest.map Prod.fst := Scene.path_eq_cons hl'
    rw [hprep.created_eq hsaved (hl' ▸ List.mem_cons_self)] at ht
    refine Tracks.mirrors ?_ (by simp)
    rw [hp] at h hn hh ⊢
    rw [replay_tried ht]
    exact h.merged hn hh (by simp) (Quiet.tried ht).marks
  case unreleased k f p rest es e hl' ht =>
    have hcs : (f.createdSavepoint?.toList.map (Control.release ·.name)).length ≤ 1 := by
      cases f.createdSavepoint? <;> simp
    rw [Mark.filterMap_event, replay_tried_failed ht hcs]
    exact h.mirrors_quiet hn hh hl rfl (by simp) (Quiet.tried ht).marks
  case rolledBack es _ hw ht =>
    have hnc : .commit ∉ s.whole .rollback := by simp [Scene.whole]
    rw [Mark.filterMap_concat _ rfl]
    refine h.mirrors_ended hh' hu (by simp) ?_
    rw [replay_append, replay_append, replay_append, replay_hooks, replay_told, replay_told,
      durable_replay_tried ht hnc]
  case undone k f p rest es hl' hf ht =>
    have hp : s.path = k :: p.1 :: rest.map Prod.fst := Scene.path_eq_cons hl'
    rw [hprep.created_eq hsaved (hl' ▸ List.mem_cons_self)] at ht
    refine Tracks.mirrors ?_ (by simp)
    rw [hf] at h ht ⊢
    rw [hp] at h hn hh ⊢
    rw [Mark.filterMap_event, replay_append, replay_hooks, replay_tried ht]
    exact h.undone hn hh (by simp) ((Quiet.tried ht).append (.hooks _)).marks
  case aborted told cs s₁ es e es' r _ hc ht hr' =>
    refine h.mirrors_ended hh' hu (by simp) ?_
    have htold : replay settings.dialect n told db = db := by
      cases hc
      case preparation | rollbackTo => rfl
      case commit | rollback => exact replay_told _ _
    have hnc : .commit ∉ s₁.whole .rollback := by simp [Scene.whole]
    rw [Mark.filterMap_event, replay_append, replay_append, replay_append, replay_hooks, htold,
      durable_replay_tried hr' hnc, durable_of_crucial hc ht]

end Database

theorem Reached.mirrors (h : Reached settings n s log) :
    (Database.replay settings.dialect n log.events .blank).Mirrors settings.nesting s log := by
  induction h
  case start => exact Database.Tracks.start.mirrors (by simp [Scene.start])
  case shift m hr ht ih =>
    rw [Log.events_append, Move.events_log, Database.replay_append]
    exact (ih.tracks ht.live_ne_nil).shift hr ht

-- The effects that last are those of the statements whose frame has committed with all frames around it,
-- in their order. A transaction that nobody holds any more has given its connection back.
theorem History.durable_replay (settings : TransactionSettings) (n : Nat) (world : World Notes)
    (moves : List Move) :
    let h := (History.start settings n world).run moves
    let happened := h.session.world.trace.drop world.trace.length
    (Database.replay settings.dialect n happened .blank).durable = h.log.lasting Mark.accepted? ∧
      (h.path = [] → h.session.transaction.connection = none) := by
  intro h happened
  have hs : h.Sound settings n world := History.sound_run moves
  have hm := hs.reached.mirrors
  rw [← hs.events_eq] at hm
  refine ⟨?_, hs.disconnected⟩
  by_cases hl : h.point.scene.live = []
  case pos => exact hm.lasting hl
  case neg =>
    rw [(hm.tracks hl).durable, hs.reached.holding.lasting_eq_nil (hs.reached.zero_not_mem hl)]

end PolySql
