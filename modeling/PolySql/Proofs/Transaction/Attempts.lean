import PolySql.Proofs.Transaction.Abiding

namespace PolySql

-- The computation keeps to the connection of its transaction, if it has one, and only adds to what has
-- happened.
structure Session.Confined {ρ : Type} (s s' : Session ρ) : Prop where
  connection : s'.transaction.connection = s.transaction.connection ∨
    s'.transaction.connection = none
  trace : ∃ es, s'.world.trace = s.world.trace ++ es ∧
    ∀ e ∈ es, e.StaysOn s.transaction.connection

def Tx.Confined {ρ α : Type} (x : Tx ρ α) : Prop :=
  ∀ s : Session ρ, s.Confined (exec x s).2

namespace Session.Confined

variable {ρ : Type} {s s' s'' : Session ρ}

-- Without a connection none is used.
theorem staysOn_of_none (h : Event.StaysOn none e) (connection : Option Nat) :
    e.StaysOn connection := by
  cases e <;> simp_all [Event.StaysOn]

theorem trans (h : s.Confined s') (h' : s'.Confined s'') : s.Confined s'' := by
  obtain ⟨es, he, hes⟩ := h.trace
  obtain ⟨es', he', hes'⟩ := h'.trace
  have hlater : ∀ e ∈ es', e.StaysOn s.transaction.connection := by
    rcases h.connection with hc | hc
    · exact hc ▸ hes'
    · exact fun e hm => staysOn_of_none (hc ▸ hes' e hm) _
  refine ⟨?_, es ++ es', by simp [he, he'], List.forall_mem_append.mpr ⟨hes, hlater⟩⟩
  rcases h'.connection with hc | hc
  · exact hc ▸ h.connection
  · exact .inr hc

instance : Session.Law (@Session.Confined ρ) where
  trans := trans
  withStack _ _ := ⟨.inl rfl, [], by simp, by simp⟩
  disconnected _ := ⟨.inr rfl, [], by simp, by simp⟩
  after _ es hes := ⟨.inl rfl, es, rfl, hes⟩
  withAside _ _ _ := ⟨.inl rfl, [], by simp [withAside], by simp⟩

end Session.Confined

-- The driver's error is found below any number of contexts, and nowhere else.
theorem DatabaseError.driverError?_eq_some {e : DatabaseError} {driver : DriverError} :
    e.driverError? = some driver ↔
      ∃ contexts : List String, e = contexts.foldr .withContext (.driver driver) where
  mp h := by
    induction e
    case driver =>
      cases h
      exact ⟨[], rfl⟩
    case withContext context source ih =>
      obtain ⟨contexts, rfl⟩ := ih h
      exact ⟨context :: contexts, rfl⟩
    all_goals nomatch h
  mpr := by
    rintro ⟨contexts, rfl⟩
    induction contexts
    case nil => rfl
    case cons _ _ ih => exact ih

theorem TransactionSettings.isRetryable_iff (settings : TransactionSettings) (e : DatabaseError) :
    settings.isRetryable e = true ↔ ∃ (contexts : List String) (driver : DriverError),
      e = contexts.foldr .withContext (.driver driver) ∧
        (settings.dialect.isRetryable driver = true ∨
          ∃ state ∈ settings.config.retryableStates, driver.sqlstate = some state) := by
  have hstates (driver : DriverError) :
      driver.sqlstate.any settings.config.retryableStates.contains = true ↔
        ∃ state ∈ settings.config.retryableStates, driver.sqlstate = some state := by
    cases driver.sqlstate <;> simp
  simp only [isRetryable, Dialect.isRetryableError, Option.any_eq_true, Bool.or_eq_true, hstates,
    DatabaseError.driverError?_eq_some, ← exists_and_right]
  exact exists_comm

theorem World.connections_append {ρ : Type} {w w' : World ρ} (connection : Option Nat)
    (h : w'.trace = w.trace ++ .connect succeeded :: es)
    (hes : ∀ e ∈ es, e.StaysOn connection) : w'.connections = w.connections + 1 := by
  simp only [connections, h, List.countP_append, List.countP_cons, if_true]
  suffices hes' : es.countP _ = 0 by rw [hes']
  refine List.countP_eq_zero.mpr fun e he => ?_
  cases e
  case connect => exact absurd (hes _ he) not_false
  all_goals exact Bool.false_ne_true

namespace Manager

variable {ρ α : Type}

section

variable (once : Outer ρ α) (w : World ρ)

-- The world before the attempt of the given number, if every attempt were followed by another one. They
-- are counted from zero.
def before : Nat → World ρ
  | 0 => w
  | i + 1 => (exec once (before i)).2

def outcomeOf (i : Nat) : Result α :=
  (exec once (before once w i)).1

theorem before_succ (i : Nat) : before once w (i + 1) = before once (exec once w).2 i := by
  induction i
  case zero => rfl
  case succ i ih => rw [before, ih, before]

end

-- Is an attempt with this outcome and number the last one?
def IsLast (settings : TransactionSettings) (i : Nat) : Result α → Prop
  | .ok _ => True
  | .error e => settings.isRetryable e = false ∨ i + 1 = settings.config.retry.maxAttempts

-- An attempt has a connection of its own, unless it does not get one, and a transaction on it with the
-- given settings.
inductive Attempted (settings : TransactionSettings) (shared : Bool) (body : Handle → Tx ρ α)
    (w : World ρ) (connection : Nat) : Result α → World ρ → Prop
  | refused :
    w.server.respond w.requests .connect = .error e →
    Attempted settings shared body w connection (.error e) (w.record (.connect false))
  | made :
    w.server.respond w.requests .connect = .ok answer →
    exec (trial shared body) ⟨.new settings connection, w.record (.connect true)⟩ = (r, s) →
    s.world.trace = w.trace ++ .connect true :: es →
    (∀ e ∈ es, e.StaysOn (some connection)) →
    Attempted settings shared body w connection r s.world

theorem Attempted.connections {settings : TransactionSettings} {shared : Bool}
    {body : Handle → Tx ρ α} {w w' : World ρ}
    (h : Attempted settings shared body w connection r w') :
    w'.connections = w.connections + 1 := by
  rcases h with _ | ⟨_, _, he, hes⟩
  · exact World.connections_append none rfl (by simp)
  · exact World.connections_append _ he hes

section

variable {settings : TransactionSettings} {shared : Bool} {body : Handle → Tx ρ α}
  (hb : ∀ h, Tx.Confined (body h))

include hb

theorem attempted (w : World ρ) :
    Attempted settings shared body w w.connections (exec (attempt settings shared body) w).1
      (exec (attempt settings shared body) w).2 := by
  rw [exec_attempt, World.connect]
  cases hc : w.server.respond w.requests .connect
  case error => exact .refused hc
  case ok =>
    let s : Session ρ := ⟨.new settings w.connections, w.record (.connect true)⟩
    obtain ⟨es, he, hes⟩ := (Tx.Abides.trial (r := Session.Confined) hb shared s).trace
    exact .made hc rfl (by rw [he]; simp [s, World.record]) hes

theorem connections_before (w : World ρ) (i : Nat) :
    (before (attempt settings shared body) w i).connections = w.connections + i := by
  induction i
  case zero => rfl
  case succ i ih => rw [before, (attempted hb _).connections, ih, Nat.add_assoc]

end

section

variable {settings : TransactionSettings} {once : Outer ρ α}

theorem starts_eq_singleton {w : World ρ} (more : Nat)
    (h : ∀ e, (exec once w).1 = .error e → retries settings e = false) :
    starts settings once more w = [w] := by
  cases more
  case zero => rfl
  case succ more =>
    rw [starts]
    rcases he : exec once w with ⟨e | a, w'⟩
    case ok => rfl
    case error => simp [h e (by rw [he])]

-- The attempts that are made are the first ones, up to one after which there is no other.
theorem starts_eq_map (settings : TransactionSettings) (once : Outer ρ α) (more : Nat) (w : World ρ) :
    ∃ k ≤ more,
    starts settings once more w = (List.range (k + 1)).map (before once w) ∧
      (∀ i < k, ∃ e, outcomeOf once w i = .error e ∧ retries settings e = true) ∧
      (k = more ∨ ∀ e, outcomeOf once w k = .error e → retries settings e = false) := by
  induction more generalizing w
  case zero => exact ⟨0, Nat.le_refl 0, rfl, by simp, .inl rfl⟩
  case succ more ih =>
    by_cases hgo : ∃ e, (exec once w).1 = .error e ∧ retries settings e = true
    case neg =>
      have hlast : ∀ e, (exec once w).1 = .error e → retries settings e = false := by
        simpa using hgo
      exact ⟨0, Nat.zero_le _, starts_eq_singleton _ hlast, by simp, .inr hlast⟩
    case pos =>
      obtain ⟨e, he, hr⟩ := hgo
      obtain ⟨k, hk, hs, hbefore, hlast⟩ := ih (exec once w).2
      have ho : ∀ i, outcomeOf once w (i + 1) = outcomeOf once (exec once w).2 i := fun i => by
        rw [outcomeOf, before_succ, outcomeOf]
      have hcons : starts settings once (more + 1) w = w :: starts settings once more (exec once w).2 := by
        rcases hx : exec once w with ⟨r, w'⟩
        obtain rfl : r = .error e := by rw [← he, hx]
        simp [starts, hx, hr]
      refine ⟨k + 1, by omega, ?_, ?_, hlast.imp (congrArg _) (ho k ▸ ·)⟩
      · rw [hcons, hs, List.range_succ_eq_map (n := k + 1), List.map_cons, List.map_map]
        exact congrArg _ (List.map_congr_left fun i _ => (before_succ once w i).symm)
      · rintro (_ | i) hi
        · exact ⟨e, he, hr⟩
        · exact ho i ▸ hbefore i (by omega)

end

-- Attempts are made up to the first one that is the last, and its outcome decides.
theorem transaction_attempts (settings : TransactionSettings) (shared : Bool)
    (body : Handle → Tx ρ α) (hb : ∀ h, Tx.Confined (body h))
    (hn : 1 ≤ settings.config.retry.maxAttempts) (w : World ρ) :
    let n := settings.config.retry.maxAttempts
    let once := attempt settings shared body
    let outcome := outcomeOf once w
    (∃ k < n,
      (∀ i < k, ¬IsLast settings i (outcome i)) ∧
      IsLast settings k (outcome k) ∧
      exec (transaction settings shared body) w =
        (match outcome k with
          | .ok a => .ok a
          | .error e =>
            .error (if settings.isRetryable e = true ∧ n ≠ 1 then .retryExhausted n e else e),
          before once w (k + 1))) ∧
    (∀ i, Attempted settings shared body (before once w i) (w.connections + i) (outcome i)
      (before once w (i + 1))) ∧
    ∀ e, settings.isRetryable e = true ↔ ∃ (contexts : List String) (driver : DriverError),
      e = contexts.foldr .withContext (.driver driver) ∧
        (settings.dialect.isRetryable driver = true ∨
          ∃ state ∈ settings.config.retryableStates, driver.sqlstate = some state) := by
  intro n once outcome
  refine ⟨?_, fun i => ?_, settings.isRetryable_iff⟩
  case refine_2 =>
    have h : Attempted settings shared body (before once w i) _ (outcome i) (before once w (i + 1)) :=
      attempted hb _
    rwa [connections_before hb] at h
  case refine_1 =>
    obtain ⟨k, hk, hs, hbefore, hlast⟩ :=
      starts_eq_map settings once (n - 1) w
    obtain ⟨w₀, hw₀, he⟩ := exec_retrying settings once (n - 1) w
    have hw : w₀ = before once w k := by
      simpa [hs, List.range_succ, eq_comm] using hw₀
    subst hw
    refine ⟨k, by omega, fun i hi h => ?_, ?_, ?_⟩
    case refine_1 =>
      obtain ⟨e, ho, hr⟩ := hbefore i hi
      simp only [retries, Bool.and_eq_true, decide_eq_true_eq] at hr
      simp only [outcome, ho, IsLast] at h
      grind
    case refine_2 =>
      cases ho : outcome k
      case ok => trivial
      case error e =>
        have := hlast.imp_right (· e ho)
        simp only [IsLast, retries, Bool.and_eq_false_iff, decide_eq_false_iff_not] at this ⊢
        grind
    case refine_3 =>
      rw [transaction, he]
      refine Prod.ext ?_ rfl
      have ho : (exec once (before once w k)).1 = outcome k := rfl
      simp only [ho]
      cases outcome k
      case ok => rfl
      case error e =>
        simp only [reported, retries, Bool.and_eq_true, decide_eq_true_eq]
        congr 2
        grind

-- A commit fails by a conflict, and then the server turns the next attempt away.
theorem transaction_of_failed_commit :
    let settings : TransactionSettings :=
      .standard .empty .postgres { Config.standard with retry := ⟨2, ⟨0⟩, ⟨0⟩⟩ }
    let conflict : DatabaseError := .driver ⟨some "40001", none, "could not serialize access"⟩
    let respond (before : List Request) : Request → Result Answer
      | .connect => if before.isEmpty then .ok .none else .error (.withContext "no server" conflict)
      | .execute sql _ => if sql = "COMMIT" then .error conflict else .ok .none
      | .query .. => .ok .none
    let world : World Notes := .new ⟨"PostgreSQL", respond⟩ .blank
    let body := Bench.nextBody
      [[.execute fun draws => (.ok (.raw ⟨"DELETE FROM t", [], false⟩), draws)]]
    let once := attempt settings false body
    (∀ h, Tx.Confined (body h)) ∧ 1 ≤ settings.config.retry.maxAttempts ∧
      ∃ k < settings.config.retry.maxAttempts, IsLast settings k (outcomeOf once world k) ∧
        (exec (transaction settings false body) world).2 = before once world (k + 1) := by
  intro settings conflict respond world body once
  have hb : ∀ h, Tx.Confined (body h) := fun _ => Tx.Abides.nextBody (r := Session.Confined) _
  have hn : 1 ≤ settings.config.retry.maxAttempts := by decide
  obtain ⟨⟨k, hk, -, hlast, he⟩, -, -⟩ := transaction_attempts settings false body hb hn world
  exact ⟨hb, hn, k, hk, hlast, by rw [he]⟩

end Manager

end PolySql
