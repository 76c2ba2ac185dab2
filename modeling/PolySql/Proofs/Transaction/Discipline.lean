import PolySql.Proofs.Transaction.History
import PolySql.Proofs.Transaction.Telling

namespace PolySql

-- The settings are those that were set last.
def Log.isolation (settings : TransactionSettings) (log : Log) : Option Isolation :=
  (log.filterMap (·.2.isolation?)).getLast?.or settings.isolation

def Log.readOnly (settings : TransactionSettings) (log : Log) : Bool :=
  (log.filterMap (·.2.readOnly?)).getLast?.getD settings.readOnly

-- The calls that the connection may get at a site in view of what came before. The first one starts the
-- transaction. Savepoints are made for a statement of their frame or of one inside it, those further out
-- first, and are used up in the innermost frame.
def TransactionSettings.Permits (settings : TransactionSettings) (before : Log) (site : Site) :
    Task → Prop
  | .control (.begin isolation readOnly) =>
    ¬before.Called ∧
      isolation = (before.isolation settings).map settings.dialect.effectiveIsolation ∧
      readOnly = before.readOnly settings
  | .control (.savepoint name) =>
    before.Begun ∧ site.move.isStatement = true ∧ ¬before.Asked (.savepoint name) ∧
      ∃ k ∈ site.path, settings.nesting.number k = some k ∧ name = savepointName k ∧
        ∀ j ∈ site.path, j < k → before.Saved settings.nesting j
  | .control (.release name) | .control (.rollbackTo name) =>
    before.Granted (.savepoint name) ∧ ¬before.Granted (.release name) ∧
      ∃ k outer, site.path = k :: outer ∧ settings.nesting.number k = some k ∧ name = savepointName k
  | .control .commit | .control .rollback => before.Called
  | _ => before.Begun ∧ ∀ j ∈ site.path, before.Saved settings.nesting j

-- Nothing is called once the transaction is over, and no setting is changed after the first call.
def TransactionSettings.Allows (settings : TransactionSettings) (before : Log) (x : Site × Mark) :
    Prop :=
  match x.2 with
  | .event (.task _ t _ _) => ¬before.Over ∧ settings.Permits before x.1 t
  | .isolation _ | .readOnly _ => ¬before.Called
  | _ => True

inductive Log.Disciplined (settings : TransactionSettings) : Log → Prop
  | nil : Disciplined settings []
  | snoc : Disciplined settings log → settings.Allows log x → Disciplined settings (log ++ [x])

section

variable {settings : TransactionSettings} {m : Move} {path : List Nat} {marks : List Mark} {log : Log}

theorem Mark.Silent.allows {x : Site × Mark} (h : x.2.Silent) : settings.Allows log x := by
  have ⟨hc, hi, hr⟩ := h
  obtain ⟨site, mark⟩ := x
  cases mark
  case event e =>
    cases e
    case task => nomatch hc
    all_goals trivial
  case isolation => nomatch hi
  case readOnly => nomatch hr
  all_goals trivial

theorem Log.Disciplined.silent (h : log.Disciplined settings) (hs : ∀ x ∈ marks, x.Silent) :
    Log.Disciplined settings (log ++ m.log path marks) := by
  induction marks generalizing log
  case nil => simpa [Move.log] using h
  case cons x rest ih =>
    obtain ⟨hx, hr⟩ := List.forall_mem_cons.mp hs
    rw [Move.append_log_cons]
    exact ih (h.snoc hx.allows) hr

end

-- The savepoints that are being made, those further out first, and what there is before them.
structure Preparing (nesting : Nesting) (path ks : List Nat) (log : Log) : Prop where
  not_over : ¬log.Over
  begun : log.Begun
  ascending : ks.Pairwise (· < ·)
  mem : ∀ k ∈ ks, k ∈ path ∧ nesting.number k = some k
  unasked : ∀ k ∈ ks, ¬log.Asked (.savepoint (savepointName k))
  saved : ∀ j ∈ path, j ∉ ks → log.Saved nesting j

section

variable {settings : TransactionSettings} {n : Nat} {m : Move} {path : List Nat} {log : Log}

theorem Preparing.disciplined (h : Preparing settings.nesting path ks log)
    (hd : log.Disciplined settings) (hm : m.isStatement = true)
    (ht : Tried n (ks.map (.savepoint ∘ savepointName)) es r) :
    Log.Disciplined settings (log ++ m.log path (es.map .event)) := by
  induction ks generalizing log es
  case nil =>
    rw [Tried.eq_nil ht]
    simpa [Move.log] using hd
  case cons k rest ih =>
    obtain ⟨hmem, hmems⟩ := List.forall_mem_cons.mp h.mem
    obtain ⟨hun, huns⟩ := List.forall_mem_cons.mp h.unasked
    obtain ⟨hlt, hasc⟩ := List.pairwise_cons.mp h.ascending
    have houter : ∀ j ∈ path, j < k → log.Saved settings.nesting j := fun j hj hjk =>
      h.saved j hj fun hmemj => by
        rcases List.mem_cons.mp hmemj with rfl | hmemj
        · exact Nat.lt_irrefl _ hjk
        · exact Nat.lt_asymm hjk (hlt j hmemj)
    have hperm : settings.Permits log ⟨path, m⟩ (.control (.savepoint (savepointName k))) :=
      ⟨h.begun, hm, hun, k, hmem.1, hmem.2, rfl, houter⟩
    generalize hcs : (k :: rest).map (Control.savepoint ∘ savepointName) = cs at ht
    cases ht
    case done => cases hcs
    case failed =>
      cases hcs
      exact hd.snoc ⟨h.not_over, hperm⟩
    case next es _ sent ht =>
      cases hcs
      rw [List.map_cons, Move.append_log_cons]
      refine ih ?_ (hd.snoc ⟨h.not_over, hperm⟩) ht
      have hnew : ¬Log.Over [((⟨path, m⟩ : Site),
          .event (.task n (.control (.savepoint (savepointName k))) sent true))] := by
        simp [Log.Over, Site.Closes, Mark.control?]
      constructor
      case not_over => exact Log.not_over_append h.not_over hnew
      case begun => exact Log.begun_append h.begun
      case ascending => exact hasc
      case mem => exact hmems
      case unasked =>
        refine fun i hi => Log.not_asked_snoc (huns i hi) fun he => ?_
        exact Nat.ne_of_gt (hlt i hi) (savepointName_injective (Control.savepoint.inj he))
      case saved =>
        intro j hj hjn
        by_cases hjk : j = k
        case pos =>
          intro i hi
          rw [Nesting.eq_of_number hi, hjk]
          exact Log.granted_snoc
        case neg => exact Log.saved_append (h.saved j hj (by simp [hjk, hjn]))

end

section

variable {settings : TransactionSettings} {n : Nat} {m : Move} {s s' : Scene} {path : List Nat}
  {marks : List Mark} {log : Log}

-- A single control that may be tried.
theorem Log.Disciplined.tried (h : log.Disciplined settings) (ht : Tried n cs es r)
    (hl : cs.length ≤ 1)
    (hc : ∀ c ∈ cs, ¬log.Over ∧ settings.Permits log ⟨path, m⟩ (.control c)) :
    Log.Disciplined settings (log ++ m.log path (es.map .event)) := by
  cases ht
  case done => simpa [Move.log] using h
  case failed => exact h.snoc (hc _ List.mem_cons_self)
  case next rest es c sent ht =>
    have hrest : rest = [] := by simpa using hl
    rw [hrest] at ht
    rw [Tried.eq_nil ht]
    exact h.snoc (hc _ List.mem_cons_self)

theorem Scene.mem_whole {s : Scene} (h : c' ∈ s.whole c) : s.begun = true ∧ c' = c := by
  unfold Scene.whole at h
  split at h
  case isTrue hb => exact ⟨hb, List.mem_singleton.mp h⟩
  case isFalse => nomatch h

theorem not_over_of_silent {es : List Event} (hs : ∀ x ∈ es.map Mark.event, x.Silent) :
    ¬(m.log path (es.map .event)).Over :=
  not_over_of_forall <| List.forall_mem_map.mpr fun _ he =>
    Site.not_closes_of_event (Mark.control?_of_not_call (hs _ (List.mem_map_of_mem he)).1)

theorem Crucial.silent (h : Crucial settings m s told cs s') :
    ∀ x ∈ told.map Mark.event, x.Silent := by
  cases h
  case preparation | rollbackTo => exact fun _ hx => nomatch hx
  case commit | rollback => exact Mark.silent_told _ _

theorem TransactionSettings.permits_statement (h : t.isControl = false) (hb : log.Begun)
    (hs : ∀ j ∈ path, log.Saved settings.nesting j) : settings.Permits log ⟨path, m⟩ t := by
  cases t
  case control => nomatch h
  all_goals exact ⟨hb, hs⟩

namespace Log.Tells

variable (h : log.Tells settings s)

include h

-- What there is before the savepoints that are lacking.
theorem preparing (hn : Numbered s.path s.opened) (hb : Log.Begun (log ++ new)) (ho : ¬Log.Over new)
    (ha : ∀ name, ¬Log.Asked new (.savepoint name)) :
    Preparing settings.nesting s.path (settings.nesting.lacking log.reach s.path) (log ++ new) where
  not_over := Log.not_over_append h.not_over ho
  begun := hb
  ascending := Nesting.ascending_lacking hn.descending
  mem k hk :=
    have ⟨hp, _, hnum⟩ := Nesting.mem_lacking.mp hk
    ⟨hp, hnum⟩
  unasked k hk := fun hak => by
    have hle := (Nesting.mem_lacking.mp hk).2.1
    exact (Log.asked_append.mp hak).elim (h.unasked k hle) (ha _)
  saved j hj hjn := Log.saved_append fun i hi => by
    cases Nesting.eq_of_number hi
    have hlt : j < log.reach := Nat.lt_of_not_le fun hle =>
      hjn (Nesting.mem_lacking.mpr ⟨hj, hle, hi⟩)
    exact h.saved j hj hlt j hi

-- The controls that are due may be tried.
theorem disciplined_due (hd : log.Disciplined settings) (hp : s.PreparedTo log.reach)
    (hs : s.Saved settings.nesting) (hn : Numbered s.path s.opened) (hm : m.isStatement = true)
    (hi : s.isolation = log.isolation settings) (hr : s.readOnly = log.readOnly settings)
    (ht : Tried n (s.due settings.dialect.effectiveIsolation) es r) :
    Log.Disciplined settings (log ++ m.log s.path (es.map .event)) := by
  rw [hp.due_eq hs] at ht
  cases hbegun : s.begun
  case true =>
    rw [hbegun, if_pos rfl, List.nil_append] at ht
    have hprep : Preparing settings.nesting s.path _ (log ++ []) :=
      h.preparing hn ((List.append_nil log).symm ▸ h.begun hbegun) (fun ⟨_, hx, _⟩ => nomatch hx)
        (fun _ ⟨_, hx, _⟩ => nomatch hx)
    rw [List.append_nil] at hprep
    exact hprep.disciplined hd hm ht
  case false =>
    rw [hbegun, if_neg Bool.false_ne_true, List.singleton_append] at ht
    have hperm : settings.Permits log ⟨s.path, m⟩
        (.control (.begin (s.isolation.map settings.dialect.effectiveIsolation) s.readOnly)) :=
      ⟨h.not_called hbegun, by rw [hi], hr⟩
    cases ht
    case failed => exact hd.snoc ⟨h.not_over, hperm⟩
    case next es sent ht =>
      rw [List.map_cons, Move.append_log_cons]
      have hnew : ∀ name, ¬Log.Asked [((⟨s.path, m⟩ : Site), .event (.task n (.control (.begin
          (s.isolation.map settings.dialect.effectiveIsolation) s.readOnly)) sent true))]
          (.savepoint name) := fun name ha => nomatch Log.eq_of_asked_singleton ha
      refine (h.preparing hn ⟨_, _, Log.granted_snoc⟩ ?_ hnew).disciplined
        (hd.snoc ⟨h.not_over, hperm⟩) hm ht
      simp [Log.Over, Site.Closes, Mark.control?]

theorem permits_savepoint (hl : s.live = (k, f) :: rest) (hlt : k < log.reach)
    (hnum : settings.nesting.number k = some k) :
    log.Granted (.savepoint (savepointName k)) ∧ ¬log.Granted (.release (savepointName k)) ∧
      ∃ i outer, s.path = i :: outer ∧ settings.nesting.number i = some i ∧
        savepointName k = savepointName i := by
  have hk : s.path = k :: rest.map Prod.fst := Scene.path_eq_cons hl
  have hmem : k ∈ s.path := hk ▸ List.mem_cons_self
  exact ⟨h.saved k hmem hlt k hnum, h.unreleased k hmem, k, _, hk, hnum, rfl⟩

variable (hr : Reached settings n s log) (hd : log.Disciplined settings)

include hr hd

-- The savepoint of the innermost frame may be used up, if it has one.
theorem disciplined_created {control : String → Control}
    (hc : control = .release ∨ control = .rollbackTo) (hl : s.live = (k, f) :: rest)
    (ht : Tried n (f.createdSavepoint?.toList.map (control ·.name)) es r) :
    Log.Disciplined settings (log ++ m.log s.path (es.map .event)) := by
  have hp := hr.prepared (by simp [hl])
  rw [hp.created_eq hr.saved (hl ▸ List.mem_cons_self)] at ht
  refine hd.tried ht (by rw [List.length_map]; exact Nesting.length_saved ..) fun c hmem => ?_
  obtain ⟨-, rfl, hlt, hnum⟩ := hp.of_saved hmem
  have hperm := h.permits_savepoint hl hlt hnum
  rcases hc with rfl | rfl
  · exact ⟨h.not_over, hperm⟩
  · exact ⟨h.not_over, hperm⟩

theorem disciplined_crucial (hi : s.isolation = log.isolation settings)
    (hro : s.readOnly = log.readOnly settings) (hl : s.live ≠ [])
    (hc : Crucial settings m s told cs s') (ht : Tried n cs es r) :
    Log.Disciplined settings (log ++ m.log s.path ((told ++ es).map .event)) := by
  have hp := hr.prepared hl
  rw [List.map_append, m.log_append, ← List.append_assoc]
  have hover : ¬Log.Over (log ++ m.log s.path (told.map .event)) :=
    Log.not_over_append h.not_over (not_over_of_silent hc.silent)
  have hcalled : s.begun = true → Log.Called (log ++ m.log s.path (told.map .event)) := fun hb =>
    have ⟨_, _, hg⟩ := h.begun hb
    Log.called_append.mpr (.inl hg.asked.called)
  cases hc
  case preparation hm =>
    rw [List.map_nil, Move.log, List.map_nil, List.append_nil]
    exact h.disciplined_due hd hp hr.saved hr.numbered hm hi hro ht
  case commit | rollback =>
    refine (hd.silent (Mark.silent_told _ _)).tried ht (s.length_whole _) fun c hc => ?_
    obtain ⟨hb, rfl⟩ := Scene.mem_whole hc
    exact ⟨hover, hcalled hb⟩
  case rollbackTo hl hn =>
    rw [List.map_nil, Move.log, List.map_nil, List.append_nil]
    exact h.disciplined_created hr hd (.inr rfl) hl ht

end Log.Tells

theorem Crucial.not_over (h : Crucial settings m s told cs s') (ht : Tried n cs es (.error e)) :
    ¬(m.log path (es.map .event)).Over := by
  cases h
  case preparation => exact ht.not_over (by simp [Scene.due]) (by simp [Scene.due])
  case rollbackTo => exact ht.not_over (by simp) (by simp)
  case commit | rollback =>
    exact not_over_of_not_granted (ht.not_granted (s.length_whole _))
      (ht.not_granted (s.length_whole _))

-- What is told after a control does not matter, and neither do hooks.
theorem Log.Disciplined.concluded
    (h : Log.Disciplined settings (log ++ m.log path (es.map .event))) (notice : Notice)
    (labels : List String) (hx : x.Silent) :
    Log.Disciplined settings (log ++ m.log path
      ((es ++ settings.told notice ++ hookEvents labels).map .event ++ [x])) := by
  rw [List.append_assoc, List.map_append, List.append_assoc, m.log_append, ← List.append_assoc]
  refine h.silent (List.forall_mem_append.mpr ⟨?_, List.forall_mem_singleton.mpr hx⟩)
  rw [List.map_append]
  exact List.forall_mem_append.mpr ⟨Mark.silent_told _ _, Mark.silent_hooks _⟩

theorem Log.Disciplined.shift (h : log.Disciplined settings) (hr : Reached settings n s log)
    (hk : log.Tells settings s)
    (hi : s.isolation = log.isolation settings) (hro : s.readOnly = log.readOnly settings)
    (ht : Shift settings n m s marks s') :
    Log.Disciplined settings (log ++ m.log s.path marks) := by
  have hl := ht.live_ne_nil
  cases ht
  case opened => simpa [Move.log] using h
  case isolation hb | readOnly hb => exact h.snoc (hk.not_called hb)
  case onCommit | onRollback => exact h.silent (List.forall_mem_singleton.mpr ⟨rfl, rfl, rfl⟩)
  case ran es task sql sent succeeded _ hm ht hc =>
    have hp := hr.prepared hl
    have hd := hk.disciplined_crucial hr h hi hro hl (.preparation hm) ht
    obtain ⟨hbegun, hsaved⟩ := hk.established hp hr.saved ht (m := m)
    have hover := hk.shift hr (.ran sql sent succeeded hl hm ht hc) (by simpa [Scene.prepared])
    have hover := hover.not_over
    simp only [List.map_append, m.log_append, ← List.append_assoc] at hover ⊢
    have hstatement : settings.Permits
        (log ++ m.log s.path (es.map .event) ++
          m.log s.path ((settings.told (.beforeStatement sql)).map .event)) ⟨s.path, m⟩ task :=
      settings.permits_statement hc (Log.begun_append hbegun) fun j hj =>
        Log.saved_append (hsaved j hj)
    refine Log.Disciplined.silent (.snoc (hd.silent (Mark.silent_told _ _)) ⟨?_, hstatement⟩)
      (Mark.silent_told _ _)
    exact fun ho => hover (Log.over_append.mpr (.inl (Log.over_append.mpr (.inl ho))))
  case committed k f es hl' ht =>
    have hd := hk.disciplined_crucial hr h hi hro hl (.commit hl') ht (m := m)
    exact hd.concluded .afterCommit f.onCommit ⟨rfl, rfl, rfl⟩
  case merged k f j g rest es hl' ht =>
    rw [m.log_append, ← List.append_assoc]
    refine (hk.disciplined_created hr h (.inl rfl) hl' ht).silent ?_
    exact List.forall_mem_singleton.mpr ⟨rfl, rfl, rfl⟩
  case unreleased k f p rest es e hl' ht => exact hk.disciplined_created hr h (.inl rfl) hl' ht
  case rolledBack es _ hw ht =>
    have hd := hk.disciplined_crucial hr h hi hro hl (.rollback hw) ht (m := m)
    exact hd.concluded .afterRollback s.rollbackHooks ⟨rfl, rfl, rfl⟩
  case undone k f p rest es hl' hf ht =>
    have hd := hk.disciplined_crucial hr h hi hro hl (.rollbackTo hl' hf) ht (m := m)
    rw [List.map_append, m.log_append, ← List.append_assoc]
    exact hd.silent (Mark.silent_hooks _)
  case aborted told cs s₁ es e es' r _ hcr ht hr' =>
    have hd := hk.disciplined_crucial hr h hi hro hl hcr ht
    rw [List.map_append, List.map_append, m.log_append, m.log_append, ← List.append_assoc,
      ← List.append_assoc]
    refine Log.Disciplined.silent (hd.tried hr' (s₁.length_whole _) fun c hc => ?_)
      (Mark.silent_hooks _)
    obtain ⟨-, rfl⟩ := Scene.mem_whole hc
    constructor
    case left =>
      refine Log.not_over_append hk.not_over ?_
      rw [List.map_append, m.log_append]
      exact Log.not_over_append (not_over_of_silent hcr.silent) (hcr.not_over ht)
    case right =>
      rw [List.map_append, m.log_append]
      exact Log.called_append.mpr (.inr (Log.called_append.mpr (.inr ht.called)))

theorem Log.isolation_append : Log.isolation settings (log ++ new) =
    (new.filterMap (·.2.isolation?)).getLast?.or (log.isolation settings) := by
  rw [isolation, isolation, List.filterMap_append, List.getLast?_append, Option.or_assoc]

theorem Log.readOnly_append : Log.readOnly settings (log ++ new) =
    (new.filterMap (·.2.readOnly?)).getLast?.getD (log.readOnly settings) := by
  rw [readOnly, readOnly, List.filterMap_append, List.getLast?_append, Option.getD_or]

theorem Crucial.settings_eq (h : Crucial settings m s told cs s') :
    s'.isolation = s.isolation ∧ s'.readOnly = s.readOnly := by
  cases h <;> exact ⟨rfl, rfl⟩

theorem Shift.settings_eq (h : Shift settings n m s marks s') :
    s'.isolation = (marks.filterMap Mark.isolation?).getLast?.or s.isolation ∧
      s'.readOnly = (marks.filterMap Mark.readOnly?).getLast?.getD s.readOnly := by
  cases h
  case isolation | readOnly | opened | onCommit | onRollback => exact ⟨rfl, rfl⟩
  case aborted hc _ _ =>
    rw [Mark.filterMap_event_eq_nil Mark.isolation? fun _ => rfl, Mark.filterMap_event_eq_nil Mark.readOnly? fun _ => rfl]
    exact hc.settings_eq
  case ran | unreleased | undone =>
    rw [Mark.filterMap_event_eq_nil Mark.isolation? fun _ => rfl, Mark.filterMap_event_eq_nil Mark.readOnly? fun _ => rfl]
    exact ⟨rfl, rfl⟩
  case committed | merged | rolledBack =>
    rw [List.filterMap_append, List.filterMap_append, Mark.filterMap_event_eq_nil Mark.isolation? fun _ => rfl,
      Mark.filterMap_event_eq_nil Mark.readOnly? fun _ => rfl]
    exact ⟨rfl, rfl⟩

theorem Reached.settings_eq (h : Reached settings n s log) :
    s.isolation = log.isolation settings ∧ s.readOnly = log.readOnly settings := by
  induction h
  case start => exact ⟨rfl, rfl⟩
  case shift m _ ht ih =>
    have ⟨hi, hr⟩ := ht.settings_eq
    rw [Log.isolation_append, Log.readOnly_append, ← ih.1, ← ih.2, Move.log, List.filterMap_map,
      List.filterMap_map]
    exact ⟨hi, hr⟩

theorem Reached.disciplined (h : Reached settings n s log) :
    log.Disciplined settings ∧ (s.live ≠ [] → log.Tells settings s) := by
  induction h
  case start => exact ⟨.nil, fun _ => .start⟩
  case shift m hr ht ih =>
    have hk := ih.2 ht.live_ne_nil
    have ⟨hi, hro⟩ := hr.settings_eq
    exact ⟨ih.1.shift hr hk hi hro ht, hk.shift hr ht⟩

end

-- All that happens on the connection of a transaction is disciplined, and the settings are at any time
-- those that were set last.
theorem History.run_disciplined (settings : TransactionSettings) (n : Nat) (world : World Notes)
    (moves : List Move) :
    let h := (History.start settings n world).run moves
    h.session.world.trace.drop world.trace.length = h.log.events ∧ h.log.Disciplined settings ∧
      h.session.transaction.stack.isolation = h.log.isolation settings ∧
      h.session.transaction.stack.readOnly = h.log.readOnly settings := by
  intro h
  have hs : h.Sound settings n world := History.sound_run moves
  exact ⟨hs.events_eq, hs.reached.disciplined.1, hs.reached.settings_eq⟩

end PolySql
