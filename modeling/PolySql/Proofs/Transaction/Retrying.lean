import PolySql.Proofs.Transaction.Attempt
import PolySql.Proofs.Transaction.Holding

namespace PolySql

-- A transaction is committed by a commit of its outermost frame and in no other way.
theorem Reached.committed_iff {settings : TransactionSettings} {s : Scene} {log : Log}
    (h : Reached settings n s log) : s.status = .committed ↔ 0 ∈ log.committed := by
  by_cases hl : s.live = []
  case neg => exact iff_of_false (by simp [h.active_of_live hl]) (h.zero_not_mem hl)
  case pos =>
    cases h
    case start => simp [Scene.start] at hl
    case shift s log marks m hr ht =>
      have h₀ := hr.zero_not_mem ht.live_ne_nil
      rw [Log.committed_append]
      cases ht
      case committed k f es hl' ht =>
        have hp : s.path = [k] := Scene.path_eq_cons hl'
        have hk : k = 0 := (hp ▸ hr.numbered).eq_zero
        let told := settings.told .beforeCommit ++ es ++ settings.told .afterCommit ++
          hookEvents f.onCommit
        have hc : (m.log [k] (told.map .event ++ [.committed])).committed = [k] :=
          m.committed_log_concat (by simp)
        rw [hp, hc, hk]
        exact iff_of_true rfl (by simp)
      case rolledBack | aborted =>
        rw [m.committed_log (by simp), List.append_nil]
        exact iff_of_false (by simp [Scene.ended]) h₀
      all_goals simp_all [Scene.push, Scene.prepared]

namespace Tx

variable {s : Session Notes}

theorem status_of_rollback (hc : s.transaction.stack.Open 0 → s.transaction.connection = some n)
    (ho : s.transaction.stack.Open 0) :
    (exec (rollback 0) s).2.transaction.stack.status 0 = .rolledBack := by
  obtain ⟨es, r, s', he, -, hr⟩ := exec_rollback hc
  rw [he]
  generalize s'.transaction = t at hr
  cases hr
  case refused h => exact absurd ho h
  case whole => exact Stack.status_aborted ho.active
  case inner h _ => simp [Stack.rollsBackEverything] at h
  case failed ha =>
    cases ha
    exact Stack.status_aborted ho.active

theorem status_of_failed_commit
    (hc : s.transaction.stack.Open 0 → s.transaction.connection = some n)
    (ho : s.transaction.stack.Open 0) (h : exec (commit 0) s = (.error e, s')) :
    s'.transaction.stack.status 0 = .rolledBack := by
  obtain ⟨es, r, s₁, he, -, hr⟩ := exec_commit hc
  cases h.symm.trans he
  generalize s'.transaction = t at hr
  cases hr
  case refused h => exact absurd ho h
  case outermostFailed ha =>
    cases ha
    exact Stack.status_aborted ho.active
  case innerFailed h _ _ => exact absurd rfl h

end Tx

namespace Manager

section

variable {ρ α : Type} (settings : TransactionSettings) (body : Handle → Tx ρ α) (w : World ρ)

-- The transaction of an attempt as it is opened, if that gets a connection.
def begun : Option (Session ρ) :=
  match w.connect with
  | (.ok n, w') => some ⟨.new settings n, w'⟩
  | (.error _, _) => none

-- Is the transaction of an attempt committed in the end?
def commits : Bool :=
  (begun settings w).any fun s =>
    (exec (trial false body) s).2.transaction.stack.status 0 = .committed

-- Was it committed by its body?
def commitsItself : Bool :=
  (begun settings w).any fun s =>
    (exec (body ⟨0, false⟩) s).2.transaction.stack.status 0 = .committed

end

section

variable {α : Type} {settings : TransactionSettings} {n k : Nat} {world : World Notes} {left : History}
  {s : Session Notes} {body : Handle → Tx Notes α} {r : Result α}

-- Once the handle has been used up, there is nothing to do in the background.
theorem exec_trial (hs : left.Sound settings n world) (hp : left.path = [k])
    (hb : exec (body ⟨0, false⟩) s = (r, left.session)) :
    exec (trial false body) s = exec (Handle.finish ⟨0, false⟩ r) left.session := by
  have ⟨moves, a, _, hf, hp'⟩ := Tx.Moves.finished [] r left world hs hp
  rw [Tx.exec_outcome] at hf
  have he := (Prod.mk.inj hf).2
  have ha := (hs.run moves).status_ne_active hp'
  rw [trial, exec_bind, Tx.exec_outcome, hb]
  dsimp only
  rw [exec_bind, Tx.exec_outcome]
  dsimp only
  rw [exec_bind, Tx.exec_settle (he ▸ ha)]
  rfl

-- What has ended before is left alone.
theorem exec_trial_of_not_active (hs : left.Sound settings n world) (hp : left.path = [k])
    (hb : exec (body ⟨0, false⟩) s = (r, left.session))
    (ha : left.session.transaction.stack.status 0 ≠ .active) :
    exec (trial false body) s = (r, left.session) := by
  rw [exec_trial hs hp hb, Tx.exec_finish, if_pos ha, Tx.exec_drop_of_not_active ha]

-- What the body leaves active is only committed when that is the attempt's success.
theorem committed_of_trial (hs : left.Sound settings n world) (hp : left.path = [k])
    (hb : exec (body ⟨0, false⟩) s = (r, left.session))
    (hc : (exec (trial false body) s).2.transaction.stack.status 0 = .committed) :
    left.session.transaction.stack.status 0 = .committed ∨ ∃ a, (exec (trial false body) s).1 = .ok a := by
  have hconn : left.session.transaction.stack.Open 0 →
      left.session.transaction.connection = some n := hs.point.connection_of_open hp
  by_cases ha : left.session.transaction.stack.status 0 = .active
  case neg =>
    rw [exec_trial_of_not_active hs hp hb ha] at hc
    exact .inl hc
  case pos =>
    rw [exec_trial hs hp hb, Tx.exec_finish] at hc ⊢
    have ⟨f, below, hf, hl⟩ := hs.point.exists_frames hp
    have ho : left.session.transaction.stack.Open 0 := ⟨ha, ((Stack.top_eq hf).trans hl).symm⟩
    rw [if_neg (not_not_intro ha)] at hc ⊢
    cases r
    case error e =>
      have hr := Tx.status_of_rollback hconn ho
      have hrb : exec (Handle.rollback ⟨0, false⟩) left.session = exec (Tx.rollback 0) left.session := rfl
      dsimp only at hc
      rw [hrb, Tx.exec_drop_of_not_active (by simp [hr]), hr] at hc
      nomatch hc
    case ok b =>
      have hcm : exec (Handle.commit ⟨0, false⟩) left.session = exec (Tx.commit 0) left.session := rfl
      dsimp only at hc ⊢
      rw [hcm] at hc ⊢
      rcases he : exec (Tx.commit 0) left.session with ⟨e | _, s'⟩
      case ok => exact .inr ⟨b, rfl⟩
      case error =>
        have hr := Tx.status_of_failed_commit hconn ho he
        rw [he, Tx.exec_drop_of_not_active (by simp [hr]), hr] at hc
        nomatch hc

end

section

variable {ρ α : Type} {settings : TransactionSettings} {once : Outer ρ α}

-- All attempts but the last have failed.
theorem failed_of_starts (more : Nat) (w : World ρ) :
    ∀ w' ∈ (starts settings once more w).dropLast, (exec once w').1.toBool = false := by
  induction more generalizing w
  case zero => simp [starts]
  case succ more ih =>
    rw [starts]
    rcases h : exec once w with ⟨e | a, w₁⟩
    case ok => simp
    case error =>
      dsimp only
      split
      case isFalse => simp
      case isTrue =>
        rw [List.dropLast_cons_of_ne_nil (starts_ne_nil settings once more w₁)]
        refine List.forall_mem_cons.mpr ⟨?_, ih w₁⟩
        rw [h]
        rfl

theorem toBool_reported (r : Result α) : (reported settings r).toBool = r.toBool := by
  cases r <;> rfl

-- What only comes with a success comes at most once, and with the success of the whole.
theorem countP_starts {p : World ρ → Bool} (hp : ∀ w, p w = true → (exec once w).1.toBool = true)
    (more : Nat) (w : World ρ) :
    (starts settings once more w).countP p ≤
      if (exec (retrying settings once more) w).1.toBool then 1 else 0 := by
  have ⟨w₀, hl, he⟩ := exec_retrying settings once more w
  have hbefore : ((starts settings once more w).dropLast).countP p = 0 := by
    refine List.countP_eq_zero.mpr fun w' hw' hpw => ?_
    exact nomatch (hp w' hpw).symm.trans (failed_of_starts more w w' hw')
  rw [← List.dropLast_append_getLast? w₀ hl, List.countP_append, hbefore, he, toBool_reported,
    List.countP_singleton, Nat.zero_add]
  cases h : p w₀
  case false => simp
  case true => simp [hp w₀ h]

end

section

variable {settings : TransactionSettings} {n : Nat} {w w' : World Notes}

theorem begun_of_connect (h : w.connect = (.ok n, w')) : begun settings w = some ⟨.new settings n, w'⟩ := by
  rw [begun, h]

theorem commits_of_commitsItself {bodies : List (List Step)}
    (h : commitsItself settings (Bench.nextBody bodies) w = true) :
    commits settings (Bench.nextBody bodies) w = true := by
  rcases hc : w.connect with ⟨e | n, w'⟩
  case error => simp [commitsItself, begun, hc] at h
  case ok =>
    have ⟨moves, r, _, hb, hp⟩ := moves_nextBody settings n bodies w'
    have hs : ((History.start settings n w').run moves).Sound settings n w' := History.sound_run moves
    simp only [commitsItself, commits, begun_of_connect hc, Option.any_some, decide_eq_true_eq, hb] at h ⊢
    rw [exec_trial_of_not_active hs hp hb (by simp [h])]
    exact h

theorem toBool_of_commits {bodies : List (List Step)}
    (h : (commits settings (Bench.nextBody bodies) w &&
      !commitsItself settings (Bench.nextBody bodies) w) = true) :
    (exec (attempt settings false (Bench.nextBody bodies)) w).1.toBool = true := by
  rw [exec_attempt]
  rcases hc : w.connect with ⟨e | n, w'⟩
  case error => simp [commits, begun, hc] at h
  case ok =>
    have ⟨moves, r, _, hb, hp⟩ := moves_nextBody settings n bodies w'
    have hs : ((History.start settings n w').run moves).Sound settings n w' := History.sound_run moves
    simp only [commits, commitsItself, begun_of_connect hc, Option.any_some, Bool.and_eq_true,
      Bool.not_eq_true', decide_eq_true_eq, decide_eq_false_iff_not, hb] at h
    have ⟨a, ha⟩ := (committed_of_trial hs hp hb h.1).resolve_left h.2
    dsimp only
    rw [ha]
    rfl

end

-- Of all attempts at most one is committed that its own body has not committed, and if there is one the
-- success of its body is reported. What the body commits stays so, whatever is reported of it; what counts
-- is that it had a commit of the outermost transaction accepted.
theorem committed_at_most_once (settings : TransactionSettings) (bodies : List (List Step))
    (world : World Notes) :
    let body := Bench.nextBody bodies
    let attempts := starts settings (attempt settings false body)
      (settings.config.retry.maxAttempts - 1) world
    let result := (exec (transaction settings false body) world).1
    (attempts.countP fun w => commits settings body w && !commitsItself settings body w) ≤
        (if result.toBool then 1 else 0) ∧
      (∀ w, commitsItself settings body w = true → commits settings body w = true) ∧
      ∀ w ∈ attempts, ∀ n w', w.connect = (.ok n, w') → ∃ moves,
        let left := (History.start settings n w').run moves
        moves.filter Move.isUse ∈
            Step.courses (bodies.getD w'.application.bodies.length (bodies.getLastD [])) ∧
          (exec (body ⟨0, false⟩) ⟨.new settings n, w'⟩).2 = left.session ∧
          (commitsItself settings body w = true ↔ 0 ∈ left.log.committed) := by
  intro body attempts result
  refine ⟨countP_starts (fun w => toBool_of_commits) _ world, fun w => commits_of_commitsItself, ?_⟩
  intro w _ n w' hc
  have ⟨moves, r, hm, hb, _⟩ := moves_nextBody settings n bodies w'
  have hs : ((History.start settings n w').run moves).Sound settings n w' := History.sound_run moves
  refine ⟨moves, hm, by rw [hb], ?_⟩
  have hb' : exec (body ⟨0, false⟩) _ = _ := hb
  rw [commitsItself, begun_of_connect hc, Option.any_some, hb', decide_eq_true_iff]
  exact hs.reached.committed_iff

-- A body may commit what it then reports as a failure, and be run again.
theorem committed_more_than_once :
    ¬∀ (catalog : Catalog) (d : Dialect) (config : Config) (bodies : List (List Step))
      (world : World Notes),
      let settings : TransactionSettings := .standard catalog d config
      let body := Bench.nextBody bodies
      let attempts := starts settings (attempt settings false body) (config.retry.maxAttempts - 1) world
      let result := (exec (transaction settings false body) world).1
      config.validate d = .ok () →
      attempts.countP (commits settings body) ≤ 1 ∧
        (result.toBool = false → attempts.countP (commits settings body) = 0) := by
  intro h
  have hcount := h .empty .postgres .standard
    [[.commit, .fail (.driver ⟨some "40001", none, "could not serialize access"⟩)]]
    (.new ⟨"PostgreSQL", fun _ _ => .ok .none⟩ .blank) rfl
  exact absurd hcount.1 (by decide +kernel)

end Manager

end PolySql
