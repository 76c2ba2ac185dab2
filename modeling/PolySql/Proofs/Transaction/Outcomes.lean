import PolySql.Proofs.Transaction.Fate
import PolySql.Proofs.Transaction.Ownership

namespace PolySql

-- Observers are told of statements, and of a transaction as a whole.
def Notice.isOutcome : Notice → Bool
  | beforeStatement _ | afterStatement _ => false
  | _ => true

def Event.isOutcome : Event → Bool
  | notice _ n => n.isOutcome
  | _ => false

def outcomes (es : List Event) : List Event :=
  es.filter Event.isOutcome

-- What all observers hear of a transaction that nothing has gone wrong with.
def TransactionSettings.report (settings : TransactionSettings) : TransactionStatus → List Event
  | .committed => settings.told .beforeCommit ++ settings.told .afterCommit
  | .rolledBack => settings.told .beforeRollback ++ settings.told .afterRollback
  | _ => []

-- What observers have heard of a transaction when it stands in the given way and the given events have
-- happened. They hear of its end unless it was given up, after a failure or in the background.
inductive Heard (settings : TransactionSettings) (orphaned : Bool) (status : TransactionStatus)
    (es : List Event) : Prop
  | reported :
    Harmless es →
    outcomes es = settings.report status →
    Heard settings orphaned status es
  | aborted :
    ¬Harmless es →
    status = .rolledBack →
    outcomes es ∈ [[], settings.told .beforeCommit, settings.told .beforeRollback] →
    Heard settings orphaned status es
  | forsaken :
    orphaned = true →
    status = .rolledBack →
    outcomes es = [] →
    Heard settings orphaned status es

section

variable {settings : TransactionSettings} {n : Nat} {m : Move} {s s' : Scene} {log : Log}

@[simp]
theorem outcomes_append : outcomes (es ++ es') = outcomes es ++ outcomes es' :=
  List.filter_append ..

@[simp]
theorem outcomes_hooks (labels : List String) : outcomes (hookEvents labels) = [] :=
  List.filter_eq_nil_iff.mpr (List.forall_mem_map.mpr fun _ _ => Bool.false_ne_true)

theorem outcomes_told (settings : TransactionSettings) (notice : Notice) :
    outcomes (settings.told notice) = if notice.isOutcome then settings.told notice else [] := by
  cases h : notice.isOutcome
  case false =>
    exact List.filter_eq_nil_iff.mpr (List.forall_mem_map.mpr fun _ _ => by simp [Event.isOutcome, h])
  case true => exact List.filter_eq_self.mpr (List.forall_mem_map.mpr fun _ _ => h)

theorem Tried.outcomes_eq_nil (h : Tried n cs es r) : outcomes es = [] := by
  induction h
  case done | failed => rfl
  case next ih => exact ih

-- Controls of which one that is no release has failed.
theorem Tried.not_harmless (h : Tried n cs es (.error e)) (hc : ∀ name, .release name ∉ cs) :
    ¬Harmless es := fun hh => by
  obtain ⟨x, hx, hf⟩ := h.fatal hc
  exact nomatch hf.symm.trans (hh x hx)

theorem Harmless.of_append (h : Harmless (es ++ es')) : Harmless es ∧ Harmless es' :=
  List.forall_mem_append.mp h

theorem Heard.of_active (h : Heard settings orphaned .active es) : Harmless es ∧ outcomes es = [] := by
  cases h
  case reported hh ho => exact ⟨hh, ho⟩
  case aborted hs _ | forsaken hs _ => nomatch hs

theorem Heard.append (hh : Harmless es) (ho : outcomes es = [])
    (h : Heard settings orphaned status es') : Heard settings orphaned status (es ++ es') := by
  have he : outcomes (es ++ es') = outcomes es' := by rw [outcomes_append, ho, List.nil_append]
  cases h
  case reported hh' ho' => exact .reported (hh.append hh') (he.trans ho')
  case aborted hn hs hm => exact .aborted (fun h => hn h.of_append.2) hs (he ▸ hm)
  case forsaken hor hs ho' => exact .forsaken hor hs (he.trans ho')

theorem Heard.mono (h : Heard settings false status es) : Heard settings orphaned status es := by
  cases h
  case reported hh ho => exact .reported hh ho
  case aborted hn hs hm => exact .aborted hn hs hm
  case forsaken hor _ _ => nomatch hor

-- A transaction that goes on is silent about it.
theorem Heard.goesOn (ha : status = .active) (hh : Harmless es) (ho : outcomes es = []) :
    Heard settings orphaned status es :=
  .reported hh (ho.trans (ha ▸ rfl))

theorem Crucial.outcomes_mem (h : Crucial settings m s told cs s') :
    outcomes told ∈ [[], settings.told .beforeCommit, settings.told .beforeRollback] := by
  cases h
  case preparation | rollbackTo => exact List.mem_cons_self
  case commit =>
    rw [outcomes_told]
    exact List.mem_cons_of_mem _ List.mem_cons_self
  case rollback =>
    rw [outcomes_told]
    exact List.mem_cons_of_mem _ (List.mem_cons_of_mem _ List.mem_cons_self)

theorem Shift.heard (h : Shift settings n m s marks s') (ha : s.status = .active) :
    Heard settings false s'.status (marks.filterMap Mark.event?) := by
  cases h
  case opened | isolation | readOnly | onCommit | onRollback =>
    exact .goesOn ha (List.forall_mem_nil _) rfl
  case ran ht hc =>
    rw [Mark.filterMap_event]
    refine .goesOn ha ?_ ?_
    · exact (((Harmless.succeeded ht).append (.told _ _)).append (.statement hc)).append (.told _ _)
    · rw [outcomes_append, outcomes_append, outcomes_append, outcomes_told, outcomes_told,
        ht.outcomes_eq_nil]
      rfl
  case committed ht =>
    rw [Mark.filterMap_concat _ rfl]
    refine .reported ?_ ?_
    · exact (((Harmless.told _ _).append (.succeeded ht)).append (.told _ _)).append (.hooks _)
    · rw [outcomes_append, outcomes_append, outcomes_append, outcomes_told, outcomes_told,
        ht.outcomes_eq_nil, outcomes_hooks, List.append_nil, List.append_nil]
      rfl
  case merged ht =>
    rw [Mark.filterMap_concat _ rfl]
    exact .goesOn ha (.succeeded ht) ht.outcomes_eq_nil
  case unreleased ht =>
    rw [Mark.filterMap_event]
    exact .goesOn ha (.released ht (by simp)) ht.outcomes_eq_nil
  case rolledBack ht =>
    rw [Mark.filterMap_concat _ rfl]
    refine .reported ?_ ?_
    · exact (((Harmless.told _ _).append (.succeeded ht)).append (.told _ _)).append (.hooks _)
    · rw [outcomes_append, outcomes_append, outcomes_append, outcomes_told, outcomes_told,
        ht.outcomes_eq_nil, outcomes_hooks, List.append_nil, List.append_nil]
      rfl
  case undone ht =>
    rw [Mark.filterMap_event]
    refine .goesOn ha ((Harmless.succeeded ht).append (.hooks _)) ?_
    rw [outcomes_append, ht.outcomes_eq_nil, outcomes_hooks, List.append_nil]
  case aborted told cs s₁ es e es' r _ hc ht hr =>
    rw [Mark.filterMap_event]
    refine .aborted (fun hh => ?_) rfl ?_
    · exact ht.not_harmless (fun _ => hc.release_not_mem) hh.of_append.1.of_append.1.of_append.2
    · simp only [outcomes_append, ht.outcomes_eq_nil, hr.outcomes_eq_nil, outcomes_hooks,
        List.append_nil]
      exact hc.outcomes_mem

theorem Reached.heard (h : Reached settings n s log) : Heard settings false s.status log.events := by
  induction h
  case start => exact .goesOn rfl (List.forall_mem_nil _) rfl
  case shift m hr ht ih =>
    have ha := hr.active_of_live ht.live_ne_nil
    rw [ha] at ih
    obtain ⟨hh, ho⟩ := ih.of_active
    rw [Log.events_append, Move.events_log]
    exact .append hh ho (ht.heard ha)

theorem Comes.heard (h : Comes settings n orphaned s log) :
    Heard settings orphaned s.status log.events := by
  cases h
  case reached h => exact h.heard.mono
  case forsaken h hl ht =>
    have hr := h.heard
    rw [h.active_of_live hl] at hr
    obtain ⟨hh, ho⟩ := hr.of_active
    rw [Log.events_append, Move.events_log, Mark.filterMap_event]
    refine .append hh ho (.forsaken rfl rfl ?_)
    rw [outcomes_append, ht.outcomes_eq_nil, outcomes_hooks, List.append_nil]

end

-- Observers hear of the end of a transaction that goes without a failure of a begin, a savepoint, a
-- rollback or a commit, and whose outermost handle is not dropped while it is shared.
theorem outcomes_heard (settings : TransactionSettings) (n : Nat) (world : World Notes) :
    (∀ moves,
      let s := ((History.start settings n world).run moves).session
      Heard settings false (s.transaction.stack.status 0)
        (s.world.trace.drop world.trace.length)) ∧
    ∀ deeds,
      let s := ((Crowd.start settings n world).run deeds).session
      Heard settings s.transaction.orphaned (s.transaction.stack.status 0)
        (s.world.trace.drop world.trace.length) := by
  constructor
  case left =>
    intro moves s
    have hs : ((History.start settings n world).run moves).Sound settings n world :=
      History.sound_run moves
    rw [hs.events_eq]
    exact hs.reached.heard
  case right =>
    intro deeds s
    have hs : ((Crowd.start settings n world).run deeds).Sound settings n world :=
      Crowd.sound_start.run deeds
    obtain ⟨log, hc, hw, -⟩ := hs.log
    rw [hw, List.drop_left]
    exact hc.heard

-- A commit that fails ends the transaction, of which observers hear nothing after its start.
theorem unheard_of_failed_commit :
    ¬∀ (settings : TransactionSettings) (n : Nat) (world : World Notes) (moves : List Move),
      let h := (History.start settings n world).run moves
      let happened := h.session.world.trace.drop world.trace.length
      h.path = [] → h.session.transaction.stack.status 0 = .rolledBack →
        ∀ observer ∈ settings.config.interceptors,
          happened.any (fun e => match e with
            | .notice o .afterRollback => o = observer
            | _ => false) = true := by
  intro h
  let settings : TransactionSettings :=
    .standard .empty .postgres { Config.standard with interceptors := ["audit"] }
  let respond (_ : List Request) : Request → Result Answer
    | .execute "COMMIT" _ => .error (.driver ⟨some "08006", none, "connection lost"⟩)
    | _ => .ok ⟨1, [], []⟩
  have hany := h settings 0 (.new ⟨"PostgreSQL", respond⟩ .blank)
    [.step (.execute fun draws => (.ok (.raw ⟨"INSERT INTO t VALUES (1)", [], false⟩), draws)),
      .step .commit, .drop]
    (by decide +kernel) (by decide +kernel) "audit" List.mem_cons_self
  exact absurd hany (by decide +kernel)

end PolySql
