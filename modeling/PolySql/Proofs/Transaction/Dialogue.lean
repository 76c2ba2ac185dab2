import PolySql.Execution.Operation
import PolySql.Proofs.Transaction.Clearing
import PolySql.Proofs.Transaction.Refusal

namespace PolySql

def Command.request (c : Command) : Request :=
  .query c.sql c.params

-- Queries that reach a server one after the other, up to the first that fails: those that were asked, and
-- what came of them.
inductive Server.Replies (server : Server) :
    List Request → List Command → List Command → Result (List Answer) → Prop
  | done : Replies server before [] [] (.ok [])
  | failed :
    server.respond before c.request = .error e →
    Replies server before (c :: rest) [c]
      (.error (.withContext ("Database operation failed: " ++ c.sql) e))
  | next :
    server.respond before c.request = .ok a →
    Replies server (before ++ [c.request]) rest asked r →
    Replies server before (c :: rest) (c :: asked) (r.map (a :: ·))

theorem Server.answerAll_singleton (server : Server) (before : List Request) (r : Request) :
    server.answerAll before .none [r] = ([r], server.respond before r) := by
  rw [answerAll]
  cases server.respond before r
  case error => rfl
  case ok => simp [answerAll, Answer.none]

theorem Server.answerAll_eq_ok (server : Server) {before rs : List Request} {found a : Answer}
    (h : (server.answerAll before found rs).2 = .ok a) : (server.answerAll before found rs).1 = rs := by
  induction rs generalizing before found
  case nil => rfl
  case cons r rs ih =>
    rw [answerAll] at h ⊢
    cases hr : server.respond before r
    case error e => simp [hr] at h
    case ok b =>
      simp only [hr] at h ⊢
      rw [ih h]

namespace Server.Replies

variable {server : Server} {before : List Request} {cs asked : List Command}

theorem isPrefix {r : Result (List Answer)} (h : server.Replies before cs asked r) : asked <+: cs := by
  induction h
  case done => exact List.prefix_rfl
  case failed => exact List.cons_prefix_cons.mpr ⟨rfl, List.nil_prefix⟩
  case next ih => exact List.cons_prefix_cons.mpr ⟨rfl, ih⟩

theorem asked_eq {answers : List Answer} (h : server.Replies before cs asked (.ok answers)) : asked = cs := by
  generalize hr : Except.ok answers = r at h
  induction h generalizing answers
  case done => rfl
  case failed => nomatch hr
  case next r _ _ _ ih =>
    cases r
    case error => nomatch hr
    case ok => rw [ih rfl]

end Server.Replies

theorem Stack.due_prepared (s : Stack) (effective : Isolation → Isolation) : s.prepared.due effective = [] := by
  simp [due, prepared, List.filterMap_map, Frame.pendingSavepoint?_established]

theorem Stack.prepared_prepared (s : Stack) : s.prepared.prepared = s.prepared := by
  simp [prepared, Frame.established, Function.comp_def]

-- The handle may run statements, and nothing is due before them.
structure Session.Ready {ρ : Type} (s : Session ρ) (h : Handle) : Prop where
  is_open : s.transaction.stack.Open h.depth
  prepared : s.transaction.stack.prepared = s.transaction.stack
  connected : ∃ n, s.transaction.connection = some n
  tidy : h.shared = true → s.Tidy

-- Between the two sessions queries were asked, and nothing else has happened.
structure Session.Asked {ρ : Type} (asked : List Command) (s s' : Session ρ) : Prop where
  transaction : s'.transaction = s.transaction
  server : s'.world.server = s.world.server
  requests : s'.world.requests = s.world.requests ++ asked.map Command.request

namespace Session

variable {ρ : Type} {s s' s'' : Session ρ} {h : Handle} {asked asked' : List Command}

theorem Asked.refl (s : Session ρ) : s.Asked [] s :=
  ⟨rfl, rfl, (List.append_nil _).symm⟩

theorem Asked.trans (h : s.Asked asked s') (h' : s'.Asked asked' s'') : s.Asked (asked ++ asked') s'' where
  transaction := h'.transaction.trans h.transaction
  server := h'.server.trans h.server
  requests := by rw [h'.requests, h.requests, List.map_append, List.append_assoc]

theorem Asked.ready (ha : s.Asked asked s') (hs : s.Ready h) : s'.Ready h := by
  obtain ⟨ho, hp, hc, htidy⟩ := hs
  refine ⟨?_, ?_, ?_, fun hshared => (htidy hshared).of_transaction_eq ha.transaction⟩
  all_goals
    rw [ha.transaction]
    assumption

end Session

namespace Tx

variable {ρ : Type} {s s' : Session ρ} {h : Handle}

theorem exec_context : exec context s =
    (.ok (.new s.transaction.settings.catalog s.transaction.settings.dialect s.world.snapshot.version), s) :=
  rfl

theorem requests_told (t : Transaction) (n : Notice) : (t.told n).flatMap Event.requests = [] := by
  simp [Transaction.told, List.flatMap_map, Event.requests]

theorem exec_perform_of_connected (hc : s.transaction.connection = some n) (operation : String) (t : Task) :
    exec (perform operation t) s =
      let answered := s.world.server.answerAll s.world.requests .none (t.requests s.transaction.settings.dialect)
      (answered.2, s.after [.task n t answered.1 answered.2.toBool]) := by
  simp only [perform, exec_bind, exec_get, hc]
  rfl

theorem exec_perform_query (hc : s.transaction.connection = some n) (operation : String) (c : Command) :
    ∃ succeeded, exec (perform operation (.query c.sql c.params)) s =
      (s.world.server.respond s.world.requests c.request,
        s.after [.task n (.query c.sql c.params) [c.request] succeeded]) := by
  rw [exec_perform_of_connected hc, Task.requests, ← Command.request, Server.answerAll_singleton]
  exact ⟨_, rfl⟩

-- A query of a handle that is ready goes to the server as it is.
theorem exec_runQuery_of_ready (hs : s.Ready h) (c : Command) :
    ∃ s', s.Asked [c] s' ∧ exec (h.runQuery c) s = (Result.withContext ("Database operation failed: " ++ c.sql)
      (s.world.server.respond s.world.requests c.request), s') := by
  have ⟨n, hn⟩ := hs.connected
  have hdue := s.transaction.stack.due_prepared s.transaction.settings.dialect.effectiveIsolation
  rw [hs.prepared] at hdue
  let s₁ := s.after (s.transaction.told (.beforeStatement c.sql))
  have ⟨succeeded, hp⟩ := exec_perform_query (s := s₁) hn "run a query" c
  have hrequests : s₁.world.requests = s.world.requests := by
    simp [s₁, World.requests, World.recordAll, requests_told]
  rw [hrequests] at hp
  let s₂ := s₁.after [.task n (.query c.sql c.params) [c.request] succeeded]
  refine ⟨s₂.after (s.transaction.told (.afterStatement c.sql)), ⟨rfl, rfl, ?_⟩, ?_⟩
  case refine_1 => simp [s₁, s₂, World.requests, World.recordAll, requests_told, Event.requests]
  case refine_2 =>
    have hstack : s.withStack s.transaction.stack = s := rfl
    simp only [Handle.runQuery, Handle.runTask, exec_bind_of_ok (exec_enter_of_tidy hs.tidy), runTask, exec_bind,
      exec_settings, exec_stack, exec_ofResult, Stack.prepare_of_open hs.is_open, hs.prepared, hdue, exec_setStack,
      exec_outcome, apply, exec_pure, hstack, exec_notify, hp, s₁]
    rfl

theorem exec_mapM_runQuery (hs : s.Ready h) (cs : List Command) :
    ∃ asked r s', s.Asked asked s' ∧ exec (cs.mapM h.runQuery) s = (r, s') ∧
      s.world.server.Replies s.world.requests cs asked r := by
  induction cs generalizing s
  case nil => exact ⟨[], .ok [], s, .refl s, rfl, .done⟩
  case cons c rest ih =>
    obtain ⟨s₁, ha₁, h₁⟩ := exec_runQuery_of_ready hs c
    rw [List.mapM_cons]
    cases hr : s.world.server.respond s.world.requests c.request
    case error e =>
      rw [hr] at h₁
      exact ⟨[c], _, s₁, ha₁, exec_bind_of_error h₁, .failed hr⟩
    case ok a =>
      rw [hr] at h₁
      obtain ⟨asked, r, s₂, ha₂, h₂, hreplies⟩ := ih (ha₁.ready hs)
      rw [ha₁.server, ha₁.requests] at hreplies
      refine ⟨c :: asked, r.map (a :: ·), s₂, ha₁.trans ha₂, ?_, .next hr hreplies⟩
      rw [exec_bind_of_ok h₁, exec_bind, h₂]
      cases r <;> rfl

-- A task that succeeds has sent all of its requests.
theorem exec_perform_after (operation : String) (t : Task) :
    ∃ es r, exec (perform operation t) s = (r, s.after es) ∧
      ∀ a, r = .ok a → (∃ n, s.transaction.connection = some n) ∧
        es.flatMap Event.requests = t.requests s.transaction.settings.dialect := by
  cases hc : s.transaction.connection
  case some n =>
    refine ⟨_, _, exec_perform_of_connected hc operation t, fun a ha => ⟨⟨n, rfl⟩, ?_⟩⟩
    rw [List.flatMap_singleton]
    exact s.world.server.answerAll_eq_ok ha
  case none =>
    refine ⟨[], .error (.transactionClosed (s.transaction.stack.status 0) operation), ?_, nofun⟩
    simp [perform, exec_bind, hc]

theorem of_exec_runTask_eq_ok {a : Answer} (hx : exec (runTask depth operation sql t) s = (.ok a, s')) :
    s.transaction.stack.Open depth ∧ (∃ n, s.transaction.connection = some n) ∧
      s'.transaction = { s.transaction with stack := s.transaction.stack.prepared } ∧
      ∃ sent, s'.world.requests = s.world.requests ++ sent ++ t.requests s.transaction.settings.dialect := by
  by_cases ho : s.transaction.stack.Open depth
  case neg =>
    obtain ⟨e, he⟩ := exec_runTask_of_not_open ho operation sql t
    rw [he] at hx
    cases hx
  case pos =>
    obtain ⟨es, r, happly⟩ := exec_apply_after (s := s.withStack s.transaction.stack.prepared)
      (s.transaction.stack.due s.transaction.settings.dialect.effectiveIsolation)
    simp only [runTask, exec_bind, exec_settings, exec_stack, exec_ofResult, Stack.prepare_of_open ho, exec_setStack,
      exec_outcome, happly] at hx
    cases r
    case error e =>
      simp only [exec_bind] at hx
      split at hx
      all_goals cases hx
    case ok =>
      let s₁ := (s.withStack s.transaction.stack.prepared).after es
      have hnotify := exec_notify (s := s₁) (.beforeStatement sql)
      obtain ⟨es', r, hperform, hconnected⟩ := exec_perform_after (s := s₁.after (s₁.transaction.told
        (.beforeStatement sql))) operation t
      simp only [s₁] at hnotify hperform
      simp only [exec_bind, hnotify, exec_outcome, hperform, exec_notify, exec_ofResult] at hx
      cases r
      case error => cases hx
      case ok answer =>
        cases hx
        obtain ⟨hconnected, hrequests⟩ := hconnected _ rfl
        refine ⟨ho, hconnected, rfl, es.flatMap Event.requests, ?_⟩
        simp [World.requests, World.recordAll, requests_told, hrequests, s₁]

-- The handle whose query was answered is ready for the next one.
theorem ready_of_runQuery {a : Answer} (hx : exec (h.runQuery c) s = (.ok a, s')) : s'.Ready h := by
  rw [Handle.runQuery, Handle.runTask, exec_bind_of_ok (exec_enter h)] at hx
  obtain ⟨ho, hconnected, ht, -⟩ := of_exec_runTask_eq_ok hx
  refine ⟨?_, ?_, ?_, fun hshared => ?_⟩
  case refine_1 =>
    rw [ht]
    exact ho.prepared
  case refine_2 =>
    rw [ht]
    exact Stack.prepared_prepared _
  case refine_3 =>
    rw [ht]
    exact hconnected
  case refine_4 =>
    have htidy := (tidy_enter (s := s) hshared).runTask h.depth "run a query" c.sql (.query c.sql c.params)
    rwa [hx] at htidy

end Tx

end PolySql
