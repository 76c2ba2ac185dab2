import PolySql.Proofs.Transaction.History

namespace PolySql

-- After this a transaction cannot go on. It can if a savepoint was not released.
def Mark.isFatal : Mark → Bool
  | rolledBack => true
  | event (.task _ (.control (.release _)) _ _) => false
  | event (.task _ (.control _) _ succeeded) => !succeeded
  | _ => false

def Log.Fatal (log : Log) : Prop :=
  ∃ x ∈ log, x.2.isFatal = true

theorem Log.fatal_append : Fatal (log ++ new) ↔ log.Fatal ∨ new.Fatal := by
  simp only [Fatal, List.mem_append, or_and_right, exists_or]

-- How a transaction stands.
inductive Fate (fatal : Prop) (s : Scene) : Prop
  | goesOn : s.live ≠ [] → s.status = .active → ¬fatal → Fate fatal s
  | committed : s.live = [] → s.status = .committed → ¬fatal → Fate fatal s
  | rolledBack : s.live = [] → s.status = .rolledBack → fatal → Fate fatal s

section

variable {settings : TransactionSettings} {n : Nat} {m : Move} {s s' : Scene} {path : List Nat}
  {marks : List Mark} {es : List Event}

theorem Move.fatal_log : (m.log path marks).Fatal ↔ ∃ x ∈ marks, x.isFatal = true := by
  simp [Log.Fatal, Move.log]

theorem Mark.isFatal_succeeded (c : Control) :
    (event (.task n (.control c) sent true)).isFatal = false := by
  cases c <;> rfl

-- Events that a transaction survives.
def Harmless (es : List Event) : Prop :=
  ∀ e ∈ es, Mark.isFatal (.event e) = false

namespace Harmless

theorem append (h : Harmless es) (h' : Harmless es') : Harmless (es ++ es') :=
  List.forall_mem_append.mpr ⟨h, h'⟩

theorem told (settings : TransactionSettings) (notice : Notice) : Harmless (settings.told notice) :=
  List.forall_mem_map.mpr fun _ _ => rfl

theorem hooks (labels : List String) : Harmless (hookEvents labels) :=
  List.forall_mem_map.mpr fun _ _ => rfl

theorem statement (h : t.isControl = false) : Harmless [.task n t sent succeeded] := by
  refine List.forall_mem_singleton.mpr ?_
  cases t
  case control => nomatch h
  all_goals rfl

theorem succeeded (h : Tried n cs es (.ok ())) : Harmless es := by
  generalize hr : (.ok () : Result Unit) = r at h
  induction h
  case done => exact fun _ he => nomatch he
  case failed => nomatch hr
  case next ih => exact List.forall_mem_cons.mpr ⟨Mark.isFatal_succeeded _, ih hr⟩

theorem released (h : Tried n cs es r) (hc : ∀ c ∈ cs, ∃ name, c = .release name) : Harmless es := by
  induction h
  case done => exact fun _ he => nomatch he
  case failed =>
    obtain ⟨name, rfl⟩ := hc _ List.mem_cons_self
    exact List.forall_mem_singleton.mpr rfl
  case next ih =>
    obtain ⟨⟨name, rfl⟩, hrest⟩ := List.forall_mem_cons.mp hc
    exact List.forall_mem_cons.mpr ⟨rfl, ih hrest⟩

theorem not_fatal (h : Harmless es) : ¬∃ x ∈ es.map Mark.event, x.isFatal = true := by
  intro ⟨x, hx, hf⟩
  obtain ⟨e, he, rfl⟩ := List.mem_map.mp hx
  exact nomatch hf.symm.trans (h e he)

theorem not_fatal_concat (h : Harmless es) (hx : x.isFatal = false) :
    ¬∃ y ∈ es.map Mark.event ++ [x], y.isFatal = true := by
  intro ⟨y, hy, hf⟩
  rcases List.mem_append.mp hy with hy | hy
  · exact h.not_fatal ⟨y, hy, hf⟩
  · cases List.mem_singleton.mp hy
    exact nomatch hf.symm.trans hx

end Harmless

theorem Tried.fatal (h : Tried n cs es (.error e)) (hc : ∀ name, .release name ∉ cs) :
    ∃ x ∈ es, Mark.isFatal (.event x) = true := by
  generalize hr : (.error e : Result Unit) = r at h
  induction h
  case done => nomatch hr
  case failed c _ _ _ =>
    refine ⟨_, List.mem_cons_self, ?_⟩
    cases c
    case release name => exact absurd List.mem_cons_self (hc name)
    all_goals rfl
  case next ih =>
    have ⟨x, hx, hf⟩ := ih (fun name hm => hc name (List.mem_cons_of_mem _ hm)) hr
    exact ⟨x, List.mem_cons_of_mem _ hx, hf⟩

theorem Crucial.release_not_mem (h : Crucial settings m s told cs s') : .release name ∉ cs := by
  cases h <;> simp [Scene.due, Scene.whole]

theorem Shift.fate (h : Shift settings n m s marks s') (ha : s.status = .active) :
    Fate (∃ x ∈ marks, x.isFatal = true) s' := by
  have hl := h.live_ne_nil
  cases h
  case opened => exact .goesOn (List.cons_ne_nil _ _) ha (by simp)
  case isolation | readOnly => exact .goesOn hl ha (by simp [Mark.isFatal])
  case onCommit | onRollback => exact .goesOn (List.cons_ne_nil _ _) ha (by simp [Mark.isFatal])
  case ran ht hc =>
    refine .goesOn (by simpa [Scene.prepared]) ha (Harmless.not_fatal ?_)
    exact (((Harmless.succeeded ht).append (.told _ _)).append (.statement hc)).append (.told _ _)
  case committed ht =>
    refine .committed rfl rfl (Harmless.not_fatal_concat ?_ rfl)
    exact (((Harmless.told _ _).append (.succeeded ht)).append (.told _ _)).append (.hooks _)
  case merged ht =>
    exact .goesOn (List.cons_ne_nil _ _) ha ((Harmless.succeeded ht).not_fatal_concat rfl)
  case unreleased ht => exact .goesOn hl ha (Harmless.released ht (by simp)).not_fatal
  case rolledBack => exact .rolledBack rfl rfl ⟨.rolledBack, by simp, rfl⟩
  case undone ht =>
    exact .goesOn (List.cons_ne_nil _ _) ha ((Harmless.succeeded ht).append (.hooks _)).not_fatal
  case aborted hc ht _ =>
    obtain ⟨x, hx, hf⟩ := ht.fatal fun _ => hc.release_not_mem
    exact .rolledBack rfl rfl ⟨.event x, by simp [hx], hf⟩

theorem Reached.fate (h : Reached settings n s log) : Fate log.Fatal s := by
  induction h
  case start => exact .goesOn (List.cons_ne_nil _ _) rfl fun ⟨_, hx, _⟩ => nomatch hx
  case shift m _ ht ih =>
    rw [Log.fatal_append, m.fatal_log]
    cases ih
    case goesOn hl ha hf =>
      rw [or_iff_right hf]
      exact ht.fate ha
    case committed hl _ _ | rolledBack hl _ _ => exact absurd hl ht.live_ne_nil

theorem Reached.active_of_live (h : Reached settings n s log) (hl : s.live ≠ []) :
    s.status = .active := by
  cases h.fate
  case goesOn ha _ => exact ha
  case committed hl' _ _ | rolledBack hl' _ _ => exact absurd hl' hl

end

theorem History.Sound.fate {h : History} (hs : h.Sound settings n world) :
    Fate h.log.Fatal h.point.scene :=
  hs.reached.fate

end PolySql
