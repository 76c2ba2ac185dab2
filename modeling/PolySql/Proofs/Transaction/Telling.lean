import PolySql.Proofs.Transaction.Calls

namespace PolySql

-- What a log tells of a transaction that goes on.
structure Log.Tells (settings : TransactionSettings) (s : Scene) (log : Log) : Prop where
  not_over : ¬log.Over
  not_called : s.begun = false → ¬log.Called
  begun : s.begun = true → log.Begun
  saved : ∀ k ∈ s.path, k < log.reach → log.Saved settings.nesting k
  unasked : ∀ k, log.reach ≤ k → ¬log.Asked (.savepoint (savepointName k))
  unreleased : ∀ k ∈ s.path, ¬log.Granted (.release (savepointName k))
  released_below : ∀ k, log.Granted (.release (savepointName k)) → k < s.opened

namespace Log.Tells

variable {settings : TransactionSettings} {n : Nat} {m : Move} {s s' : Scene} {log : Log}

theorem start : Log.Tells settings (.start settings) [] where
  not_over := fun ⟨_, hx, _⟩ => nomatch hx
  not_called _ := fun ⟨_, hx, _⟩ => nomatch hx
  begun hb := nomatch hb
  saved _ _ hk := nomatch hk
  unasked _ _ := fun ⟨_, hx, _⟩ => nomatch hx
  unreleased _ _ := fun ⟨_, hx, _⟩ => nomatch hx
  released_below _ := fun ⟨_, hx, _⟩ => nomatch hx

variable (h : log.Tells settings s)

include h

theorem push (hle : log.reach ≤ s.opened) : log.Tells settings (s.push nesting) where
  not_over := h.not_over
  not_called := h.not_called
  begun := h.begun
  saved := List.forall_mem_cons.mpr ⟨fun hk => absurd hle (Nat.not_le_of_lt hk), h.saved⟩
  unasked := h.unasked
  unreleased := List.forall_mem_cons.mpr
    ⟨fun hg => Nat.lt_irrefl _ (h.released_below _ hg), h.unreleased⟩
  released_below k hk := Nat.lt_succ_of_lt (h.released_below k hk)

-- The controls that were due have made all that a statement needs.
theorem established (hp : s.PreparedTo log.reach) (hs : s.Saved settings.nesting)
    (ht : Tried n (s.due settings.dialect.effectiveIsolation) es (.ok ())) :
    Log.Begun (log ++ m.log s.path (es.map .event)) ∧
      ∀ k ∈ s.path, Log.Saved settings.nesting (log ++ m.log s.path (es.map .event)) k := by
  rw [hp.due_eq hs] at ht
  constructor
  case left =>
    cases hbegun : s.begun
    case true => exact Log.begun_append (h.begun hbegun)
    case false =>
      rw [hbegun, if_neg Bool.false_ne_true, List.singleton_append] at ht
      exact ⟨_, _, Log.granted_append.mpr (.inr (ht.granted List.mem_cons_self))⟩
  case right =>
    intro k hk i hi
    cases Nesting.eq_of_number hi
    by_cases hlt : k < log.reach
    case pos => exact Log.saved_append (h.saved k hk hlt) k hi
    case neg =>
      have hl := Nesting.mem_lacking.mpr ⟨hk, Nat.le_of_not_lt hlt, hi⟩
      refine Log.granted_append.mpr (.inr (ht.granted (List.mem_append_right _ ?_)))
      exact List.mem_map_of_mem hl

-- Besides controls of the innermost frame, nothing happens that matters here.
theorem stay (hr : Tried n cs es r)
    (hcs : ∀ c ∈ cs, s.begun = true ∧ ∃ name, c = .release name ∨ c = .rollbackTo name)
    (hrel : ∀ i, (m.log s.path (es.map .event)).Granted (.release (savepointName i)) →
      i < s.opened ∧ i ∉ s'.path)
    (hrest : ∀ x ∈ rest, x.isCall = false ∧ ¬Site.Closes ⟨s.path, m⟩ x)
    (hpath : ∀ k ∈ s'.path, k ∈ s.path) (hbegun : s'.begun = s.begun) (ho : s'.opened = s.opened) :
    Log.Tells settings s' (log ++ m.log s.path (es.map .event ++ rest)) := by
  have hreach : Log.reach (log ++ m.log s.path (es.map .event ++ rest)) = log.reach := by
    refine m.reach_append (List.forall_mem_append.mpr ⟨(Quiet.tried hr).marks, fun x hx => ?_⟩)
    exact x.not_statement_of_not_call (hrest x hx).1
  have hcalled : ¬(m.log s.path rest).Called := not_called_of_forall fun x hx => (hrest x hx).1
  have hcontrol : ∀ x ∈ rest, x.control? = none := fun x hx =>
    Mark.control?_of_not_call (hrest x hx).1
  constructor
  case not_over =>
    refine Log.not_over_append h.not_over ?_
    rw [m.log_append]
    refine Log.not_over_append (hr.not_over ?_ ?_) (not_over_of_forall fun x hx => (hrest x hx).2)
    · exact fun hc => by simpa using (hcs _ hc).2
    · exact fun hc => by simpa using (hcs _ hc).2
  case not_called =>
    intro hb hc
    rw [hbegun] at hb
    rw [m.log_append, Log.called_append, Log.called_append] at hc
    have hnil : cs = [] := by
      refine List.eq_nil_iff_forall_not_mem.mpr fun c hc => ?_
      exact nomatch hb.symm.trans (hcs c hc).1
    cases hnil
    rw [Tried.eq_nil hr] at hc
    rcases hc with hc | ⟨_, hx, _⟩ | hc
    · exact h.not_called hb hc
    · nomatch hx
    · exact hcalled hc
  case begun => exact fun hb => Log.begun_append (h.begun (hbegun ▸ hb))
  case saved =>
    intro k hk hlt
    rw [hreach] at hlt
    exact Log.saved_append (h.saved k (hpath k hk) hlt)
  case unasked =>
    intro k hle ha
    rw [hreach] at hle
    refine (Log.asked_append.mp ha).elim (h.unasked k hle) fun ha => ?_
    simpa using (hcs _ (hr.mem_of_asked ((asked_log_append hcontrol).mp ha))).2
  case unreleased =>
    intro k hk hg
    refine (Log.granted_append.mp hg).elim (h.unreleased k (hpath k hk)) fun hg => ?_
    exact (hrel k ((granted_log_append hcontrol).mp hg)).2 hk
  case released_below =>
    intro k hg
    rw [ho]
    refine (Log.granted_append.mp hg).elim (h.released_below k) fun hg => ?_
    exact (hrel k ((granted_log_append hcontrol).mp hg)).1

theorem stay_plain (hrest : ∀ x ∈ rest, x.isCall = false ∧ ¬Site.Closes ⟨s.path, m⟩ x)
    (hpath : ∀ k ∈ s'.path, k ∈ s.path) (hbegun : s'.begun = s.begun) (ho : s'.opened = s.opened) :
    Log.Tells settings s' (log ++ m.log s.path rest) :=
  h.stay (Tried.done : Tried 0 [] [] _) (fun _ hc => nomatch hc) (fun _ ⟨_, hx, _⟩ => nomatch hx)
    hrest hpath hbegun ho

theorem ran (hp : s.PreparedTo log.reach) (hs : s.Saved settings.nesting)
    (ht : Tried n (s.due settings.dialect.effectiveIsolation) es (.ok ()))
    (hrest : ∀ x ∈ rest, x.control? = none ∧ ¬Site.Closes ⟨s.path, m⟩ x)
    (hst : ∃ x ∈ rest, x.isStatement = true) :
    Log.Tells settings s.prepared (log ++ m.log s.path (es.map .event ++ rest)) := by
  obtain ⟨hbegun, hsaved⟩ := h.established hp hs ht (m := m)
  have hasked : ∀ c, (m.log s.path (es.map .event ++ rest)).Asked c →
      c ∈ s.due settings.dialect.effectiveIsolation := fun c ha =>
    ht.mem_of_asked ((asked_log_append fun x hx => (hrest x hx).1).mp ha)
  have hrel : ∀ name, ¬(m.log s.path (es.map .event ++ rest)).Granted (.release name) := by
    intro name hg
    simpa [Scene.due] using hasked _ hg.asked
  constructor
  case not_over =>
    refine Log.not_over_append h.not_over ?_
    rw [m.log_append]
    refine Log.not_over_append (ht.not_over ?_ ?_) (not_over_of_forall fun x hx => (hrest x hx).2)
    · simp [Scene.due]
    · simp [Scene.due]
  case not_called => exact fun hb => absurd hb (by simp [Scene.prepared])
  case begun =>
    intro _
    rw [m.log_append, ← List.append_assoc]
    exact Log.begun_append hbegun
  case saved =>
    intro k hk _
    rw [s.path_prepared] at hk
    rw [m.log_append, ← List.append_assoc]
    exact Log.saved_append (hsaved k hk)
  case unasked =>
    intro k hle ha
    refine (Log.asked_append.mp ha).elim (h.unasked k (Nat.le_trans Log.reach_le_append hle)) ?_
    intro ha
    have hmem := hasked _ ha
    rw [hp.due_eq hs] at hmem
    have hpath : k ∈ s.path := by
      rcases List.mem_append.mp hmem with hb | hl
      · split at hb <;> simp at hb
      · obtain ⟨i, hi, he⟩ := List.mem_map.mp hl
        cases savepointName_injective (Control.savepoint.inj he)
        exact (Nesting.mem_lacking.mp hi).1
    obtain ⟨x, hx, hsx⟩ := hst
    have hlt : k < Log.reach (log ++ m.log s.path (es.map .event ++ rest)) :=
      m.lt_reach ⟨x, List.mem_append_right _ hx, hsx⟩ k hpath
    exact Nat.not_lt_of_le hle hlt
  case unreleased =>
    intro k hk hg
    rw [s.path_prepared] at hk
    exact (Log.granted_append.mp hg).elim (h.unreleased k hk) (hrel _)
  case released_below =>
    exact fun k hg => (Log.granted_append.mp hg).elim (h.released_below k) (absurd · (hrel _))

theorem shift (hr : Reached settings n s log) (ht : Shift settings n m s marks s')
    (hl' : s'.live ≠ []) : Log.Tells settings s' (log ++ m.log s.path marks) := by
  have hp := hr.prepared ht.live_ne_nil
  have hs := hr.saved
  have hn := hr.numbered
  cases ht
  case opened =>
    rw [Move.log, List.map_nil, List.append_nil]
    exact h.push hp.le
  case isolation | readOnly =>
    refine h.stay_plain ?_ (fun _ hk => hk) rfl rfl
    simp [Mark.isCall, Site.Closes, Mark.control?]
  case onCommit hl | onRollback hl =>
    refine h.stay_plain (by simp [Mark.isCall, Site.Closes, Mark.control?]) ?_ rfl rfl
    simp [Scene.path, hl]
  case ran es task sql sent succeeded hl hm ht hc =>
    rw [List.append_assoc, List.append_assoc, List.map_append]
    refine h.ran hp hs ht (List.forall_mem_map.mpr fun e he => ?_) ?_
    · have hnone : (Mark.event e).control? = none := by
        simp only [List.mem_append, List.mem_singleton] at he
        rcases he with he | rfl | he
        · exact Mark.control?_of_not_call (Mark.silent_told _ _ _ (List.mem_map_of_mem he)).1
        · exact Mark.control?_statement hc
        · exact Mark.control?_of_not_call (Mark.silent_told _ _ _ (List.mem_map_of_mem he)).1
      exact ⟨hnone, Site.not_closes_of_event hnone⟩
    · refine ⟨.event (.task n task sent succeeded), ?_, by simp [Mark.isStatement, hc]⟩
      simp
  case merged k f j g rest es hl ht =>
    have hk : s.path = k :: j :: rest.map Prod.fst := Scene.path_eq_cons hl
    rw [hp.created_eq hs (hl ▸ List.mem_cons_self)] at ht
    refine h.stay ht (fun c hc => ?_) (fun i hg => ?_) ?_ ?_ rfl rfl
    · obtain ⟨hb, he, _⟩ := hp.of_saved hc
      exact ⟨hb, _, .inl he⟩
    · obtain ⟨_, he, _⟩ := hp.of_saved (ht.mem_of_asked hg.asked)
      cases savepointName_injective (Control.release.inj he)
      rw [hk] at hn
      refine ⟨hn.below k List.mem_cons_self, fun hmem => ?_⟩
      exact Nat.lt_irrefl k (hn.lt_head hmem)
    · simp [Mark.isCall, Site.Closes, Mark.control?, hk]
    · exact fun i hi => hk ▸ List.mem_cons_of_mem _ hi
  case unreleased k f p rest es e hl ht =>
    rw [hp.created_eq hs (hl ▸ List.mem_cons_self)] at ht
    rw [← List.append_nil (es.map Mark.event)]
    refine h.stay ht (fun c hc => ?_) (fun i hg => ?_) (by simp) (fun _ hk => hk) rfl rfl
    · obtain ⟨hb, he, _⟩ := hp.of_saved hc
      exact ⟨hb, _, .inl he⟩
    · refine absurd hg (ht.not_granted ?_)
      rw [List.length_map]
      exact Nesting.length_saved ..
  case undone k f p rest es hl hf ht =>
    have hk : s.path = k :: p.1 :: rest.map Prod.fst := Scene.path_eq_cons hl
    rw [hp.created_eq hs (hl ▸ List.mem_cons_self)] at ht
    rw [List.map_append]
    refine h.stay ht (fun c hc => ?_) (fun i hg => ?_) ?_ ?_ rfl rfl
    · obtain ⟨hb, he, _⟩ := hp.of_saved hc
      exact ⟨hb, _, .inr he⟩
    · obtain ⟨_, he, _⟩ := hp.of_saved (ht.mem_of_asked hg.asked)
      cases he
    · simp [hookEvents, Mark.isCall, Site.Closes, Mark.control?]
    · exact fun i hi => hk ▸ List.mem_cons_of_mem _ hi
  case committed | rolledBack | aborted => exact absurd rfl hl'

end Log.Tells

end PolySql
