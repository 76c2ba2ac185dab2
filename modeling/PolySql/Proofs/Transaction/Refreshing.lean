import PolySql.Proofs.Transaction.Abiding
import PolySql.Proofs.Transaction.Dialogue

namespace PolySql

def Session.Recalls {ρ : Type} (s s' : Session ρ) : Prop :=
  s'.world.snapshot = s.world.snapshot

-- The computation leaves what is known of the server as it is.
def Tx.Recalls {ρ α : Type} (x : Tx ρ α) : Prop :=
  ∀ s : Session ρ, (exec x s).2.world.snapshot = s.world.snapshot

def Outer.Recalls {ρ α : Type} (x : Outer ρ α) : Prop :=
  ∀ w : World ρ, (exec x w).2.snapshot = w.snapshot

instance {ρ : Type} : Session.Law (@Session.Recalls ρ) where
  trans h h' := h'.trans h
  withStack _ _ := rfl
  disconnected _ := rfl
  after _ _ _ := rfl
  withAside _ _ h := h

theorem Tx.Recalls.tableNames {ρ : Type} {h : Handle} : Recalls (h.tableNames : Tx ρ (List String)) :=
  Abides.tableNames (r := Session.Recalls)

namespace Outer.Recalls

variable {ρ α β : Type} {x : Outer ρ α}

theorem pure (a : α) : Recalls (Pure.pure a : Outer ρ α) :=
  fun _ => rfl

theorem throw (e : DatabaseError) : Recalls (MonadExcept.throw e : Outer ρ α) :=
  fun _ => rfl

theorem outcome (hx : Recalls x) : Recalls x.outcome :=
  hx

theorem bind {f : α → Outer ρ β} (hx : Recalls x) (hf : ∀ a, Recalls (f a)) : Recalls (x >>= f) := by
  intro w
  have h := hx w
  rcases he : exec x w with ⟨e | a, w'⟩
  all_goals rw [he] at h
  case error => rwa [exec_bind_of_error he]
  case ok =>
    rw [exec_bind_of_ok he]
    exact (hf a w').trans h

theorem guarded {c : Prop} [Decidable c] {x : Outer ρ Unit} {f : Unit → Outer ρ β} (hx : Recalls x)
    (hf : ∀ a, Recalls (f a)) : Recalls (if c then x >>= f else f ()) := by
  split
  case isTrue => exact hx.bind hf
  case isFalse => exact hf ()

theorem connect : Recalls (Outer.connect : Outer ρ Nat) := by
  intro w
  rw [exec_connect, World.connect]
  split <;> rfl

end Outer.Recalls


-- What the server tells of its version to one who connects and asks for it.
def World.toldVersion {ρ : Type} (w : World ρ) (d : Dialect) : Result Version := do
  let _ ← w.server.respond w.requests .connect
  let a ← w.server.respond (w.requests ++ [.connect]) (.query d.catalog.serverVersion [])
  Cells.serverVersion a.rows

namespace Manager

open Outer

section

variable {ρ α : Type} {settings : TransactionSettings} {shared : Bool} {body : Handle → Tx ρ α}

theorem recalls_attempt (hb : ∀ h, (body h).Recalls) : Recalls (attempt settings shared body) := by
  intro w
  have hconnect := Outer.Recalls.connect w
  have htrial : (trial shared body).Recalls := Tx.Abides.trial (r := Session.Recalls) hb shared
  rw [exec_connect] at hconnect
  rw [exec_attempt]
  rcases hc : w.connect with ⟨e | n, w'⟩
  all_goals rw [hc] at hconnect
  case error => exact hconnect
  case ok => exact (htrial _).trans hconnect

theorem recalls_retrying {once : Outer ρ α} (h : Recalls once) (more : Nat) :
    Recalls (retrying settings once more) := by
  induction more
  case zero =>
    rw [retrying]
    refine h.outcome.bind fun r => ?_
    cases r
    case ok => exact .pure _
    case error => exact .guarded (.throw _) fun _ => .throw _
  case succ ih =>
    rw [retrying]
    refine h.outcome.bind fun r => ?_
    cases r
    case ok => exact .pure _
    case error => exact .guarded (.throw _) fun _ => ih

-- Transactions do not ask for the version.
theorem recalls_transaction (hb : ∀ h, (body h).Recalls) : Recalls (transaction settings shared body) :=
  recalls_retrying (recalls_attempt hb) _

-- Whatever steps they carry out.
theorem recalls_transaction_nextBody (bodies : List (List Step)) :
    Recalls (transaction settings shared (Bench.nextBody bodies)) :=
  recalls_transaction fun _ => Tx.Abides.nextBody (r := Session.Recalls) bodies

end

variable {ρ : Type} {m : Manager} {w w₀ : World ρ}

-- Something that is done with a manager. All but a refresh leaves what is known of the server as it is.
inductive Use (ρ : Type)
  | refresh
  | other (x : Outer ρ Unit) (recalls : x.Recalls)

def perform (m : Manager) : Use ρ → Outer ρ Unit
  | .refresh => m.refresh
  | .other x _ => x

-- The world after the uses, each of which may have failed.
def after (m : Manager) : List (Use ρ) → World ρ → World ρ
  | [], w => w
  | u :: us, w => after m us (exec (m.perform u) w).2

-- What the server told at the latest refresh, or before all of them.
def lastTold (m : Manager) : List (Use ρ) → World ρ → Result Version → Result Version
  | [], _, told => told
  | .refresh :: us, w, _ => lastTold m us (exec m.refresh w).2 (w.toldVersion m.settings.dialect)
  | .other x _ :: us, w, told => lastTold m us (exec x w).2 told

-- What is known once the server has told its version, or has failed to.
def told (s : Snapshot) : Result Version → Snapshot
  | .ok v => s.store v
  | .error _ => s

theorem exec_fetchVersion (d : Dialect) (n : Nat) (w : World ρ) :
    ∃ w', exec (fetchVersion d n) w =
        (((w.server.respond w.requests (.query d.catalog.serverVersion [])).bind
          fun a => Cells.serverVersion a.rows).map fun _ => (), w') ∧
      w'.snapshot = told w.snapshot
        ((w.server.respond w.requests (.query d.catalog.serverVersion [])).bind fun a => Cells.serverVersion a.rows) := by
  simp only [fetchVersion, exec_bind, exec_get, World.perform, Task.requests, Server.answerAll_singleton, exec_set,
    exec_ofResult]
  cases (w.server.respond w.requests (.query d.catalog.serverVersion [])).bind fun a => Cells.serverVersion a.rows
  case error => exact ⟨_, rfl, rfl⟩
  case ok => exact ⟨_, rfl, rfl⟩

-- Connecting and asking for the version.
theorem exec_connect_fetchVersion (d : Dialect) (w : World ρ) :
    ∃ w', exec (do fetchVersion d (← connect)) w = ((w.toldVersion d).map fun _ => (), w') ∧
      w'.snapshot = told w.snapshot (w.toldVersion d) := by
  rw [exec_bind, exec_connect, World.connect, World.toldVersion]
  cases w.server.respond w.requests .connect
  case error => exact ⟨_, rfl, rfl⟩
  case ok =>
    obtain ⟨w', he, hs⟩ := exec_fetchVersion d w.connections (w.record (.connect true))
    have hrequests : (w.record (.connect true)).requests = w.requests ++ [.connect] := by
      simp [World.requests, World.record, Event.requests]
    rw [hrequests] at he hs
    exact ⟨w', he, hs⟩

theorem snapshot_told_empty (r : Result Version) : told .empty r = ⟨r.toOption⟩ := by
  cases r <;> rfl

-- A refresh that fails leaves nothing known.
theorem exec_refresh (hd : m.settings.dialect.isVersionGated = true) (w : World ρ) :
    ∃ w', exec m.refresh w = ((w.toldVersion m.settings.dialect).map fun _ => (), w') ∧
      w'.snapshot = ⟨(w.toldVersion m.settings.dialect).toOption⟩ := by
  obtain ⟨w', he, hs⟩ := exec_connect_fetchVersion m.settings.dialect { w with snapshot := .empty }
  refine ⟨w', ?_, hs.trans (snapshot_told_empty _)⟩
  rw [refresh, exec_bind, exec_modify]
  dsimp only
  rw [if_pos hd]
  exact he

-- A manager is made with the version of the server.
theorem version_of_new (hw : w.snapshot = .empty) (hm : exec (new catalog config) w = (.ok m, w₀))
    (hd : m.settings.dialect.isVersionGated = true) :
    ∃ v, w.toldVersion m.settings.dialect = .ok v ∧ w₀.snapshot.version = some v := by
  obtain ⟨n, w₁, hconnect, hm⟩ := of_exec_bind hm
  obtain ⟨_, _, ⟨⟩, hm⟩ := of_exec_bind hm
  obtain ⟨d, w₂, hdialect, hm⟩ := of_exec_bind hm
  obtain ⟨⟨⟩, w₃, hvalid, hm⟩ := of_exec_bind hm
  obtain rfl : w₁ = w₂ := congrArg Prod.snd hdialect
  obtain rfl : w₁ = w₃ := congrArg Prod.snd hvalid
  have hfetch : exec (fetchVersion d n) w₁ = (.ok (), w₀) ∧ m.settings.dialect = d := by
    cases hgate : d.isVersionGated
    case true =>
      rw [if_pos hgate] at hm
      obtain ⟨⟨⟩, _, hf, hm⟩ := of_exec_bind hm
      cases hm
      exact ⟨hf, rfl⟩
    case false =>
      rw [hgate] at hm
      cases hm
      exact absurd (hgate.symm.trans hd) Bool.false_ne_true
  obtain ⟨hf, rfl⟩ := hfetch
  obtain ⟨w', he, hs⟩ := exec_connect_fetchVersion m.settings.dialect w
  rw [exec_bind_of_ok hconnect, hf] at he
  rw [hw] at hs
  cases ht : w.toldVersion m.settings.dialect
  case error e =>
    rw [ht] at he
    nomatch he
  case ok v =>
    rw [ht] at he hs
    cases he
    exact ⟨v, rfl, congrArg Snapshot.version hs⟩

theorem version_after (hd : m.settings.dialect.isVersionGated = true) (uses : List (Use ρ)) {r : Result Version}
    (hw : w.snapshot.version = r.toOption) :
    (m.after uses w).snapshot.version = (m.lastTold uses w r).toOption := by
  induction uses generalizing w r
  case nil => exact hw
  case cons u us ih =>
    cases u
    case refresh =>
      obtain ⟨w', he, hs⟩ := exec_refresh hd w
      exact ih (congrArg Snapshot.version ((congrArg (·.2.snapshot) he).trans hs))
    case other x hx => exact ih ((congrArg Snapshot.version (hx w)).trans hw)

-- What is known is what the server told at the latest refresh. Where it told nothing, nothing is known, and every
-- capability is the one that the dialect has by itself.
theorem known_after_uses (hw : w.snapshot = .empty) (hm : exec (new catalog config) w = (.ok m, w₀))
    (hd : m.settings.dialect.isVersionGated = true) :
    ∃ v, w.toldVersion m.settings.dialect = .ok v ∧ ∀ (uses : List (Use ρ)) (t : Transaction),
      let w' := m.after uses w₀
      let told := m.lastTold uses w₀ (.ok v)
      (exec m.refresh w').1 = (w'.toldVersion m.settings.dialect).map (fun _ => ()) ∧
      w'.snapshot.version = told.toOption ∧
      (∀ s : Statement, exec (Handle.compile s) ⟨t, w'⟩ =
        (s.compile (.new t.settings.catalog t.settings.dialect told.toOption), ⟨t, w'⟩)) ∧
      (∀ c, exec (Handle.supports c) ⟨t, w'⟩ = (.ok (t.settings.dialect.isSupported told.toOption c), ⟨t, w'⟩)) ∧
      ∀ e, told = .error e → ∀ c, t.settings.dialect.isSupported told.toOption c = t.settings.dialect.supports c := by
  obtain ⟨v, hv, hw₀⟩ := version_of_new hw hm hd
  refine ⟨v, hv, fun uses t => ?_⟩
  have hknown := version_after hd uses (r := .ok v) hw₀
  obtain ⟨_, he, -⟩ := exec_refresh hd (m.after uses w₀)
  refine ⟨congrArg Prod.fst he, hknown, fun s => ?_, fun c => ?_, fun e he c => ?_⟩
  case refine_1 =>
    rw [← hknown]
    rfl
  case refine_2 =>
    rw [← hknown]
    rfl
  case refine_3 =>
    rw [he]
    cases hr : t.settings.dialect.requires c <;> simp [Dialect.isSupported, hr, Except.toOption]

-- A server that takes no connection while it is upgraded.
def upgradedServer : Server where
  product := "SQLite"
  respond
    | [_, _], .connect => .error (.driver ⟨none, none, "connection refused"⟩)
    | [_], .query .. => .ok ⟨0, ["version"], [[.text "3.9.0"]]⟩
    | _, .query .. => .ok ⟨0, ["version"], [[.text "3.45.1"]]⟩
    | _, _ => .ok .none

theorem known_after_upgrade :
    let config : Config := { Config.standard with explicitDialect := some .sqlite }
    let m : Manager := ⟨.standard ⟨[]⟩ .sqlite config⟩
    let w : World Unit := .new upgradedServer ()
    let made := exec (new ⟨[]⟩ config) w
    let work : Use Unit := .other (do let _ ← transaction m.settings false fun h => h.tableNames)
      ((recalls_transaction fun _ => Tx.Recalls.tableNames).bind fun _ => .pure ())
    w.snapshot = .empty ∧ made = (.ok m, made.2) ∧ m.settings.dialect.isVersionGated = true ∧
      (m.after [work] made.2).snapshot.version = some ⟨3, 9, 0⟩ ∧
      (m.after [.refresh, work] made.2).snapshot.version = none ∧
      (m.after [.refresh, .refresh, work] made.2).snapshot.version = some ⟨3, 45, 1⟩ := by
  intro config m w made work
  have hm : made = (.ok m, made.2) := Prod.ext rfl rfl
  obtain ⟨v, hv, h⟩ := known_after_uses rfl hm rfl
  cases hv.symm.trans (rfl : w.toldVersion m.settings.dialect = .ok ⟨3, 9, 0⟩)
  let t : Transaction := .new m.settings 0
  exact ⟨rfl, hm, rfl, (h [work] t).2.1, (h [.refresh, work] t).2.1, (h [.refresh, .refresh, work] t).2.1⟩

-- After a refresh that failed a statement is compiled that was refused before.
theorem forgets_when_refresh_fails :
    let table : TableDef := ⟨"people", [⟨"id", .int .bits32, false, true, false, none⟩], [0], [], []⟩
    let config : Config := { Config.standard with explicitDialect := some .sqlite }
    let m : Manager := ⟨.standard ⟨[table]⟩ .sqlite config⟩
    let made := exec (new ⟨[table]⟩ config) (World.new upgradedServer ())
    let refreshed := exec m.refresh made.2
    let compiled (w : World Unit) : Result Command :=
      (exec (Handle.compile (.delete { Delete.new 0 with returning := [.star none] })) ⟨.new m.settings 0, w⟩).1
    made.1 = .ok m ∧ m.settings.dialect.isVersionGated = true ∧
      refreshed.1 = .error (.driver ⟨none, none, "connection refused"⟩) ∧
      (made.2.snapshot.version = some ⟨3, 9, 0⟩ ∧ refreshed.2.snapshot.version = none) ∧
      compiled made.2 = .error (.unsupported "sqlite" "RETURNING") ∧
      compiled refreshed.2 = .ok ⟨"DELETE FROM people RETURNING *", []⟩ := by
  refine ⟨rfl, rfl, rfl, ⟨rfl, rfl⟩, rfl, ?_⟩
  rfl

end Manager

end PolySql
