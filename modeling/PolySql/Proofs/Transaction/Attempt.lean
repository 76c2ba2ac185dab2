import PolySql.Proofs.Transaction.Body
import PolySql.Proofs.Transaction.Fate
import PolySql.Scenario.Bench

namespace PolySql

namespace Outer

variable {ρ α : Type} {w : World ρ}

@[simp]
theorem exec_outcome (x : Outer ρ α) : exec x.outcome w = (.ok (exec x w).1, (exec x w).2) :=
  rfl

@[simp]
theorem exec_connect : exec (connect : Outer ρ Nat) w = w.connect :=
  rfl

@[simp]
theorem exec_ofResult (r : Result α) : exec (ofResult r) w = (r, w) :=
  rfl

end Outer

namespace Manager

variable {ρ α : Type}

-- What an attempt does with its transaction.
def trial (shared : Bool) (body : Handle → Tx ρ α) : Tx ρ α := do
  let h : Handle := ⟨0, shared⟩
  let result ← (body h).outcome
  let finished ← (h.finish result).outcome
  Tx.settle
  Tx.ofResult finished

-- May an attempt that has failed be followed by another one?
def retries (settings : TransactionSettings) (e : DatabaseError) : Bool :=
  settings.isRetryable e && 1 < settings.config.retry.maxAttempts

-- The worlds in which attempts are made.
def starts (settings : TransactionSettings) (once : Outer ρ α) : Nat → World ρ → List (World ρ)
  | 0, w => [w]
  | more + 1, w =>
    match exec once w with
    | (.error e, w') => if retries settings e then w :: starts settings once more w' else [w]
    | (.ok _, _) => [w]

theorem starts_ne_nil (settings : TransactionSettings) (once : Outer ρ α) (more : Nat)
    (w : World ρ) : starts settings once more w ≠ [] := by
  cases more
  case zero => exact List.cons_ne_nil _ _
  case succ =>
    rw [starts]
    split
    · split <;> exact List.cons_ne_nil _ _
    · exact List.cons_ne_nil _ _

-- The transaction of the last attempt as it was opened, if that got a connection.
def last (settings : TransactionSettings) (shared : Bool) (body : Handle → Tx ρ α) (world : World ρ) :
    Option (Session ρ) :=
  let attempts := starts settings (attempt settings shared body)
    (settings.config.retry.maxAttempts - 1) world
  attempts.getLast?.bind fun w =>
    match w.connect with
    | (.ok n, w') => some ⟨.new settings n, w'⟩
    | (.error _, _) => none

-- What is reported of the last attempt.
def reported (settings : TransactionSettings) : Result α → Result α
  | .ok a => .ok a
  | .error e =>
    .error (if retries settings e then .retryExhausted settings.config.retry.maxAttempts e else e)

theorem exec_attempt (settings : TransactionSettings) (shared : Bool) (body : Handle → Tx ρ α)
    (w : World ρ) :
    exec (attempt settings shared body) w = match w.connect with
      | (.ok n, w') =>
        let (r, s) := exec (trial shared body) ⟨.new settings n, w'⟩
        (r, s.world)
      | (.error e, w') => (.error e, w') := by
  rw [attempt, begin, exec_bind, exec_bind, Outer.exec_connect]
  rcases w.connect with ⟨_ | n, w'⟩
  case error => rfl
  case ok => rfl

-- The last attempt decides.
theorem exec_retrying (settings : TransactionSettings) (once : Outer ρ α) (more : Nat) (w : World ρ) :
    ∃ w₀, (starts settings once more w).getLast? = some w₀ ∧
      exec (retrying settings once more) w =
        (reported settings (exec once w₀).1, (exec once w₀).2) := by
  have hlast : ∀ e, (!settings.isRetryable e || decide (settings.config.retry.maxAttempts ≤ 1)) =
      !retries settings e := fun e => by
    simp only [retries, Bool.not_and, ← decide_not, Nat.not_lt]
  induction more generalizing w
  case zero =>
    refine ⟨w, rfl, ?_⟩
    rw [retrying, exec_bind, Outer.exec_outcome]
    rcases exec once w with ⟨e | a, w'⟩
    case ok => rfl
    case error =>
      dsimp only
      rw [hlast, reported]
      cases retries settings e <;> rfl
  case succ more ih =>
    rw [retrying, exec_bind, Outer.exec_outcome, starts]
    rcases h : exec once w with ⟨e | a, w'⟩
    case ok => exact ⟨w, rfl, by rw [h]; rfl⟩
    case error =>
      obtain ⟨w₀, hl, he⟩ := ih w'
      dsimp only
      rw [hlast]
      cases hr : retries settings e
      case true =>
        refine ⟨w₀, ?_, he⟩
        rw [if_pos rfl, List.getLast?_cons_of_ne_nil (starts_ne_nil settings once more w'), hl]
      case false =>
        refine ⟨w, rfl, ?_⟩
        rw [h, reported, hr]
        rfl

end Manager

theorem Stack.status_committed_zero {s : Stack} (h : s.status 0 = .active) :
    (s.committed 0).2.status 0 = .committed := by
  cases hf : s.frames
  case nil => simp [status, hf] at h
  case cons f rest => simp [committed, status, hf, Frame.committed]

namespace Tx

variable {ρ : Type} {s s' : Session ρ}

theorem exec_settle (h : s.transaction.stack.status 0 ≠ .active) :
    exec (settle : Tx ρ Unit) s = (.ok (), s) := by
  rw [settle, exec_bind, exec_transaction]
  dsimp only
  rw [if_neg (by simp [h]), exec_pure]

theorem exec_drop_of_not_active (h : s.transaction.stack.status 0 ≠ .active) :
    exec (Handle.drop ⟨0, false⟩ : Tx ρ Unit) s = (.ok (), s) := by
  rw [exec_drop, exec_rollback_of_not_active h, Stack.pop_zero]
  rfl

theorem status_of_commit (hc : s.transaction.stack.Open 0 → s.transaction.connection = some n)
    (h : exec (commit 0) s = (.ok (), s')) : s'.transaction.stack.status 0 = .committed := by
  have ⟨es, r, s₁, he, _, hr⟩ := exec_commit hc
  cases h.symm.trans he
  generalize s'.transaction = t at hr
  cases hr
  case outermost ho _ _ _ => exact Stack.status_committed_zero ho.active
  case inner hd _ _ => exact absurd rfl hd

end Tx

namespace Manager

variable {α : Type} {settings : TransactionSettings} {n k : Nat} {world : World Notes} {left : History}
  {s ended : Session Notes} {body : Handle → Tx Notes α}

theorem of_trial (ht : exec (trial false body) s = (.ok a, ended)) :
    ∃ s', exec (Handle.finish ⟨0, false⟩ (exec (body ⟨0, false⟩) s).1) (exec (body ⟨0, false⟩) s).2 =
        (.ok a, s') ∧
      exec Tx.settle s' = (.ok (), ended) := by
  rw [trial, exec_bind, Tx.exec_outcome] at ht
  dsimp only at ht
  rw [exec_bind, Tx.exec_outcome] at ht
  dsimp only at ht
  rw [exec_bind] at ht
  rcases hf : exec (Handle.finish ⟨0, false⟩ _) _ with ⟨finished, s'⟩
  rw [hf] at ht
  rcases hs : exec Tx.settle s' with ⟨e | _, s''⟩
  case error =>
    rw [hs] at ht
    nomatch ht
  case ok =>
    rw [hs] at ht
    cases ht
    exact ⟨s', rfl, hs⟩

-- A body that is successful has its work committed, unless the transaction has ended before.
theorem of_finish (hc : s.transaction.stack.Open 0 → s.transaction.connection = some n)
    (h : exec (Handle.finish ⟨0, false⟩ r) s = (.ok a, s')) :
    r = .ok a ∧
      (s.transaction.stack.status 0 ≠ .active ∧ s' = s ∨
        s.transaction.stack.status 0 = .active ∧ s'.transaction.stack.status 0 = .committed) := by
  rw [Tx.exec_finish] at h
  by_cases ha : s.transaction.stack.status 0 = .active
  case neg =>
    rw [if_pos ha, Tx.exec_drop_of_not_active ha] at h
    cases h
    exact ⟨rfl, .inl ⟨ha, rfl⟩⟩
  case pos =>
    rw [if_neg (not_not_intro ha)] at h
    cases r
    case error => cases h
    case ok b =>
      have hcommit : exec (Handle.commit ⟨0, false⟩) s = exec (Tx.commit 0) s := rfl
      dsimp only at h
      rw [hcommit] at h
      rcases he : exec (Tx.commit 0) s with ⟨e | _, s₁⟩
      case error =>
        rw [he] at h
        cases h
      case ok =>
        have hs₁ := Tx.status_of_commit hc he
        rw [he, Tx.exec_drop_of_not_active (by simp [hs₁])] at h
        cases h
        exact ⟨rfl, .inr ⟨ha, hs₁⟩⟩

-- The transaction was left active and is committed, or it has ended before and nothing more is done.
theorem ended_of_trial (hs : left.Sound settings n world) (hp : left.path = [k])
    (hb : exec (body ⟨0, false⟩) s = (r, left.session))
    (ht : exec (trial false body) s = (.ok a, ended)) :
    r = .ok a ∧
      (ended.transaction.stack.status 0 = .committed ∧ ¬left.log.Fatal ∨
        ended.transaction.stack.status 0 = .rolledBack ∧ ended = left.session ∧ left.log.Fatal) := by
  have ⟨s', hfin, hset⟩ := of_trial ht
  rw [hb] at hfin
  have hconn : left.session.transaction.stack.Open 0 →
      left.session.transaction.connection = some n := hs.point.connection_of_open hp
  obtain ⟨hr, hend⟩ := of_finish hconn hfin
  have hfate := hs.fate
  refine ⟨hr, ?_⟩
  rcases hend with ⟨ha, rfl⟩ | ⟨ha, hc⟩
  case inl =>
    rw [Tx.exec_settle ha] at hset
    cases hset
    cases hfate
    case goesOn hs' _ => exact absurd hs' ha
    case committed hs' hf => exact .inl ⟨hs', hf⟩
    case rolledBack hs' hf => exact .inr ⟨hs', rfl, hf⟩
  case inr =>
    rw [Tx.exec_settle (by simp [hc])] at hset
    cases hset
    cases hfate
    case goesOn hf => exact .inl ⟨hc, hf⟩
    case committed hs' _ | rolledBack hs' _ => cases ha.symm.trans hs'

theorem eq_of_reported {r : Result α} (h : reported settings r = .ok a) : r = .ok a := by
  cases r
  case error => nomatch h
  case ok => exact h

-- A success is that of the last attempt.
theorem exists_last {reply : α} (h : (exec (transaction settings false body) world).1 = .ok reply) :
    ∃ n w, last settings false body world = some ⟨.new settings n, w⟩ ∧
      exec (trial false body) ⟨.new settings n, w⟩ =
        (.ok reply, ⟨(exec (trial false body) ⟨.new settings n, w⟩).2.transaction,
          (exec (transaction settings false body) world).2⟩) := by
  have ⟨w, hw, he⟩ := exec_retrying settings (attempt settings false body)
    (settings.config.retry.maxAttempts - 1) world
  rw [transaction, he] at h ⊢
  have hr := eq_of_reported h
  rw [exec_attempt] at hr ⊢
  rcases hc : w.connect with ⟨e | n, w₁⟩
  case error =>
    rw [hc] at hr
    nomatch hr
  case ok =>
    rw [hc] at hr
    refine ⟨n, w₁, ?_, Prod.ext hr rfl⟩
    rw [last, hw, Option.bind_some, hc]

-- The body of an attempt uses the transaction by the moves of its steps.
theorem moves_nextBody (settings : TransactionSettings) (n : Nat) (bodies : List (List Step))
    (w : World Notes) :
    ∃ moves r, moves.filter Move.isUse ∈
        Step.courses (bodies.getD w.application.bodies.length (bodies.getLastD [])) ∧
      exec (Bench.nextBody bodies ⟨0, false⟩) ⟨.new settings n, w⟩ =
        (r, ((History.start settings n w).run moves).session) ∧
      ((History.start settings n w).run moves).path = [0] := by
  have ⟨moves, r, hm, he, hp⟩ := Step.moves_body 0 []
    (bodies.getD w.application.bodies.length (bodies.getLastD [])) (History.start settings n w) w
    History.sound_start rfl
  refine ⟨moves, r, hm, ?_, hp⟩
  rw [Tx.exec_outcome] at he
  have ⟨hr, hs⟩ := Prod.mk.inj he
  exact Prod.ext (Except.ok.inj hr) hs

-- What reports a success has committed the transaction of the last attempt, unless the body has brought
-- about that it was rolled back before. Then it is left as the body has left it.
theorem committed_of_transaction (settings : TransactionSettings) (bodies : List (List Step))
    (world : World Notes) (reply : Reply)
    (h : (exec (transaction settings false (Bench.nextBody bodies)) world).1 = .ok reply) :
    ∃ n w moves,
      let body := Bench.nextBody bodies
      let begun : Session Notes := ⟨.new settings n, w⟩
      let left := (History.start settings n w).run moves
      let ended := (exec (trial false body) begun).2
      last settings false body world = some begun ∧
        moves.filter Move.isUse ∈
          Step.courses (bodies.getD w.application.bodies.length (bodies.getLastD [])) ∧
        exec (body ⟨0, false⟩) begun = (.ok reply, left.session) ∧
        ended.world = (exec (transaction settings false body) world).2 ∧
        (ended.transaction.stack.status 0 = .committed ∧ ¬left.log.Fatal ∨
          ended.transaction.stack.status 0 = .rolledBack ∧ ended = left.session ∧ left.log.Fatal) := by
  have ⟨n, w, hl, ht⟩ := exists_last h
  have ⟨moves, r, hm, hb, hp⟩ := moves_nextBody settings n bodies w
  have ⟨hr, hend⟩ := ended_of_trial (History.sound_run moves) hp hb ht
  subst hr
  exact ⟨n, w, moves, hl, hm, hb, by rw [ht], by rw [ht]; exact hend⟩

theorem exists_of_toBool {r : Result α} (h : r.toBool = true) : ∃ a, r = .ok a := by
  cases r
  case error => nomatch h
  case ok a => exact ⟨a, rfl⟩

-- The first attempt meets a conflict. In the second a scope with a savepoint fails, and the body goes on.
theorem transaction_of_caught_scope :
    let config := { Config.standard with useNestedTransactions := true, retry := ⟨2, ⟨0⟩, ⟨0⟩⟩ }
    let settings : TransactionSettings := .standard .empty .postgres config
    let delete (table : String) : Step :=
      .execute fun draws => (.ok (.raw ⟨"DELETE FROM " ++ table, [], false⟩), draws)
    let body := Bench.nextBody
      [[delete "drafts", .fail (.driver ⟨some "40001", none, "could not serialize access"⟩)],
        [delete "visits", .caught (.scope [delete "people", .fail (.config "refused")])]]
    let world : World Notes := .new ⟨"PostgreSQL", fun _ _ => .ok .none⟩ .blank
    let sql : Request → String
      | .connect => "connect"
      | .execute sql _ | .query sql _ => sql
    let sent := ["connect", "BEGIN", "DELETE FROM drafts", "ROLLBACK",
      "connect", "BEGIN", "DELETE FROM visits", "SAVEPOINT strata_sp_1", "DELETE FROM people",
      "ROLLBACK TO SAVEPOINT strata_sp_1", "COMMIT"]
    ∃ reply n w moves,
      let left := (History.start settings n w).run moves
      let ended := (exec (trial false body) ⟨.new settings n, w⟩).2
      config.validate .postgres = .ok () ∧ (exec (transaction settings false body) world).1 = .ok reply ∧
        last settings false body world = some ⟨.new settings n, w⟩ ∧
        exec (body ⟨0, false⟩) ⟨.new settings n, w⟩ = (.ok reply, left.session) ∧ ¬left.log.Fatal ∧
        ended.transaction.stack.status 0 = .committed ∧
        ended.world.requests.map sql = sent := by
  intro config settings delete body world sql sent
  have ⟨reply, h⟩ := exists_of_toBool (r := (exec (transaction settings false body) world).1) (by decide +kernel)
  have ⟨n, w, moves, hl, _, hb, _, hend⟩ := committed_of_transaction settings _ world reply h
  have hlast := (Option.all_eq_true (fun begun : Session Notes =>
    let ended := (exec (trial false body) begun).2
    decide (ended.transaction.stack.status 0 ≠ .rolledBack) && ended.world.requests.map sql == sent)
    (last settings false body world)).mp (by decide +kernel) _ hl
  have ⟨hne, hsent⟩ := Bool.and_eq_true_iff.mp hlast
  have ⟨hcommitted, hfatal⟩ := hend.resolve_right fun hr => of_decide_eq_true hne hr.1
  exact ⟨reply, n, w, moves, rfl, h, hl, hb, hfatal, hcommitted, eq_of_beq hsent⟩

-- A scope that fails in a flat transaction rolls everything back, and the body need not fail for that.
theorem not_committed_of_caught_scope :
    ¬∀ (catalog : Catalog) (d : Dialect) (config : Config) (bodies : List (List Step))
      (world : World Notes) (begun : Session Notes),
      let settings : TransactionSettings := .standard catalog d config
      let body := Bench.nextBody bodies
      config.validate d = .ok () →
      (exec (transaction settings false body) world).1.toBool = true →
      last settings false body world = some begun →
      (exec (trial false body) begun).2.transaction.stack.status 0 = .committed := by
  intro h
  have hall := (Option.all_eq_true _ _).mpr fun begun hb => decide_eq_true <|
    h .empty .postgres .standard [[.caught (.scope [.fail (.config "refused")])]]
      (.new ⟨"PostgreSQL", fun _ _ => .ok .none⟩ .blank) begun rfl (by decide +kernel) hb
  exact absurd hall (by decide +kernel)

end Manager

end PolySql
