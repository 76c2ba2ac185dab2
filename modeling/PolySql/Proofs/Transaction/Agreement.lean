import PolySql.Proofs.Transaction.Aside
import PolySql.Proofs.Transaction.Body

namespace PolySql

-- A program on one transaction. It uses the innermost open handle, which it ends by a commit or a
-- rollback before it comes back to the one around it, and goes on as the replies tell it.
inductive Program
  | done
  | step (s : Step) (next : Result Reply → Program)
  | nested (next : Result Unit → Program)

namespace Program

-- Carries out a step. One that ends the transaction is the last use of the handle.
def perform (h : Handle) (s : Step) : Step.Run Reply := do
  let result ← (s.plain h).outcome
  if s.isEnding && !h.shared then h.drop
  Tx.ofResult result

-- The replies of a program that is run on handles, the innermost first, with the session in the end.
def run : Program → List Handle → Session Notes → List (Result Reply) × Session Notes
  | done, _, s => ([], s)
  | step _ _, [], s => ([], s)
  | nested _, [], s => ([], s)
  | step st next, h :: outer, s =>
    let (r, s) := exec (perform h st) s
    let (replies, s) := (next r).run (if st.isEnding then outer else h :: outer) s
    (r :: replies, s)
  | nested next, h :: outer, s =>
    let (r, s) := exec h.nested s
    let (replies, s) := (next (r.map fun _ => ())).run (r.toOption.toList ++ h :: outer) s
    (r.map (fun _ => .nothing) :: replies, s)

end Program

theorem Stack.top_of_change {step : Step} {s s' : Stack} (hf : step.change? = some f)
    (hc : f depth s = .ok s') : s'.top = s.top := by
  obtain ⟨-, g, below, cs, rs, _, _, hi, -, rfl⟩ := of_change hf hc
  simp [top, withInward, frames_eq hi]

-- The second session has as many frames as the first, and the same of them were given up.
structure Session.Retained {ρ : Type} (s s' : Session ρ) : Prop where
  top : s'.transaction.stack.top = s.transaction.stack.top
  abandoned : s'.transaction.abandoned = s.transaction.abandoned

theorem Session.Retained.tidy {ρ : Type} {s s' : Session ρ} (h : s.Retained s') (hs : s.Tidy) : s'.Tidy := by
  rwa [Tidy, h.top, h.abandoned]

-- What handles of both kinds have in common: once there is nothing to clean up, it makes no difference whether the
-- handle is shared, and there is nothing to clean up after its use.
def Tx.Indifferent {ρ α : Type} (x : Handle → Tx ρ α) : Prop :=
  ∀ depth s, s.Tidy →
    exec (x ⟨depth, true⟩) s = exec (x ⟨depth, false⟩) s ∧ s.Retained (exec (x ⟨depth, false⟩) s).2

namespace Tx.Indifferent

section

variable {ρ α β : Type}

theorem of_ignores {f : Nat → Tx ρ α} (h : ∀ depth, Ignores (f depth))
    (ht : ∀ depth s, (exec (f depth) s).2.transaction.stack.top = s.transaction.stack.top) :
    Indifferent fun handle => f handle.depth :=
  fun depth s _ => ⟨rfl, ht depth s, (h depth).abandoned_eq s⟩

theorem pure (a : α) : Indifferent fun _ => (Pure.pure a : Tx ρ α) :=
  of_ignores (fun _ => .pure a) fun _ _ => rfl

theorem enter : Indifferent (Handle.enter : Handle → Tx ρ Unit) :=
  fun _ _ hs => ⟨exec_enter_of_tidy fun _ => hs, rfl, rfl⟩

theorem bind {x : Handle → Tx ρ α} {f : α → Handle → Tx ρ β} (hx : Indifferent x)
    (hf : ∀ a, Indifferent (f a)) : Indifferent fun h => x h >>= fun a => f a h := by
  intro depth s hs
  have ⟨he, hr⟩ := hx depth s hs
  rw [exec_bind, exec_bind, he]
  rcases h : exec (x ⟨depth, false⟩) s with ⟨e | a, s'⟩
  all_goals rw [h] at hr
  case error => exact ⟨rfl, hr⟩
  case ok =>
    have ⟨he', hr'⟩ := hf a depth s' (hr.tidy hs)
    exact ⟨he', hr'.top.trans hr.top, hr'.abandoned.trans hr.abandoned⟩

end

variable {α : Type}

theorem visits {x : Handle → Step.Run α} (h : Visits step x) : Indifferent x := by
  induction h
  case hidden f hf =>
    intro depth s _
    have ht := (hf depth s).transaction
    exact ⟨rfl, by rw [ht], by rw [ht]⟩
  case enter => exact enter
  case runTask operation sql _ _ =>
    exact enter.bind fun _ => of_ignores (fun depth => .runTask depth operation sql _)
      fun depth _ => top_exec_runTask depth operation sql _
  case bind hx hf => exact hx.bind hf

theorem change (hf : Step.change? step = some f) : Indifferent fun h => (Tx.change (f h.depth) : Step.Run Unit) := by
  refine of_ignores (fun _ => .change _) fun depth s => ?_
  rw [exec_change]
  cases hc : f depth s.transaction.stack
  case error => rfl
  case ok => exact Stack.top_of_change hf hc

theorem plain (he : step.isEnding = false) : Indifferent fun h => Step.plain h step := by
  rcases hf : step.change? with _ | f
  case none => exact visits (Step.visits hf he)
  case some =>
    have hplain : (fun h => Step.plain h step) = fun h =>
        (h.enter >>= fun _ => Tx.change (f h.depth)) >>= fun _ => Pure.pure Reply.nothing :=
      funext fun h => Step.plain_of_change hf h
    rw [hplain]
    exact bind (enter.bind fun _ => change hf) fun _ => pure _

end Tx.Indifferent

-- Whatever was given up before, a shared handle that has entered is used like any other one.
theorem Step.exec_plain_entered {step : Step} (he : step.isEnding = false) (depth : Nat) (s : Session Notes) :
    let s' := (exec (Handle.enter ⟨depth, true⟩) s).2
    exec (step.plain ⟨depth, true⟩) s' = exec (step.plain ⟨depth, false⟩) s' :=
  (Tx.Indifferent.plain he depth _ (Tx.tidy_enter rfl)).1

namespace Tx

variable {s : Session Notes} {depth : Nat}

theorem exec_nested_shared (hs : s.Tidy) :
    exec (Handle.nested ⟨depth, true⟩) s =
      ((exec (Handle.nested ⟨depth, false⟩) s).1.map fun h => { h with shared := true },
        (exec (Handle.nested ⟨depth, false⟩) s).2) := by
  have he : exec (Handle.enter ⟨depth, true⟩) s = (.ok (), s) := exec_enter_of_tidy fun _ => hs
  rw [exec_nested, Handle.nested, exec_bind_of_ok he, exec_bind, exec_change]
  cases s.transaction.stack.push depth <;> rfl

-- A shared handle that has ended its transaction forgets the frame by itself, any other one when it is
-- dropped.
theorem exec_endBy_shared {x : Nat → Step.Run Unit} (hs : s.Tidy)
    (hx : (exec (x depth) s).2.transaction.stack.status depth ≠ .active) :
    exec (Handle.endBy ⟨depth, true⟩ x) s =
      ((exec (x depth) s).1, (exec (Handle.drop ⟨depth, false⟩) (exec (x depth) s).2).2) := by
  have he : exec (Handle.enter ⟨depth, true⟩) s = (.ok (), s) := exec_enter_of_tidy fun _ => hs
  have hretire : exec (Handle.retire ⟨depth, true⟩) (exec (x depth) s).2 =
      exec (Handle.drop ⟨depth, false⟩) (exec (x depth) s).2 := by
    rw [exec_drop, exec_rollback_of_not_active hx]
    simp [Handle.retire, exec_bind, hx]
  rw [Handle.endBy, exec_bind_of_ok he, exec_bind, exec_outcome]
  simp only [if_true]
  rw [exec_bind, hretire, exec_drop]
  rfl

theorem exec_plain_shared {step : Step} (he : step.isEnding = true) (hs : s.Tidy)
    (hx : (exec (step.plain ⟨depth, false⟩) s).2.transaction.stack.status depth ≠ .active) :
    exec (step.plain ⟨depth, true⟩) s =
      ((exec (step.plain ⟨depth, false⟩) s).1,
        (exec (Handle.drop ⟨depth, false⟩) (exec (step.plain ⟨depth, false⟩) s).2).2) := by
  have hend : ∀ x : Nat → Step.Run Unit, exec (Handle.endBy ⟨depth, false⟩ x) s = exec (x depth) s :=
    fun _ => rfl
  cases step
  case commit | rollback =>
    simp only [Step.plain, Handle.commit, Handle.rollback, exec_silent, hend] at hx ⊢
    rw [exec_endBy_shared hs hx]
  all_goals cases he

-- A step that ends the innermost transaction ends it, even if it fails.
theorem status_exec_ending {step : Step} (he : step.isEnding = true)
    (ht : depth = s.transaction.stack.top)
    (hc : s.transaction.stack.Open depth → s.transaction.connection = some n) :
    (exec (step.plain ⟨depth, false⟩) s).2.transaction.stack.status depth ≠ .active := by
  cases step
  case commit =>
    rw [Step.plain, exec_silent]
    exact status_exec_commit ht hc
  case rollback =>
    rw [Step.plain, exec_silent]
    exact status_exec_rollback ht hc
  all_goals cases he

theorem abandoned_exec_ending {step : Step} (he : step.isEnding = true) :
    (exec (step.plain ⟨depth, false⟩) s).2.transaction.abandoned = s.transaction.abandoned := by
  cases step
  case commit =>
    rw [Step.plain, exec_silent]
    exact (Ignores.commit depth).abandoned_eq s
  case rollback =>
    rw [Step.plain, exec_silent]
    exact (Ignores.rollback depth).abandoned_eq s
  all_goals cases he

theorem abandoned_exec_drop : (exec (Handle.drop ⟨depth, false⟩) s).2.transaction.abandoned =
    s.transaction.abandoned := by
  rw [exec_drop]
  exact (Ignores.rollback depth).abandoned_eq s

end Tx

namespace Program

variable {s : Session Notes} {st : Step} {depth : Nat}

theorem exec_perform_of_not (h : (st.isEnding && !handle.shared) = false) :
    exec (perform handle st) s = exec (st.plain handle) s := by
  rw [perform, exec_bind, Tx.exec_outcome, h]
  rfl

theorem exec_perform_of_ending (he : st.isEnding = true) :
    exec (perform ⟨depth, false⟩ st) s = ((exec (st.plain ⟨depth, false⟩) s).1,
      (exec (Handle.drop ⟨depth, false⟩) (exec (st.plain ⟨depth, false⟩) s).2).2) := by
  have hd : (true && !false) = true := rfl
  rw [perform, exec_bind, Tx.exec_outcome, he]
  dsimp only
  rw [if_pos hd, exec_bind, Tx.exec_drop]
  rfl

-- The handles that are open when there are so many.
def handles (shared : Bool) : Nat → List Handle
  | 0 => []
  | depth + 1 => ⟨depth, shared⟩ :: handles shared depth

section

variable {settings : TransactionSettings} {n : Nat} {world : World Notes} {h : History}
  (hs : h.Sound settings n world) (ha : h.session.transaction.abandoned = [])

include hs ha

theorem perform_agrees (hp : h.path = k :: outer) (st : Step) :
    exec (perform ⟨outer.length, true⟩ st) h.session =
        exec (perform ⟨outer.length, false⟩ st) h.session ∧
      ∃ h' : History, h'.Sound settings n world ∧ h'.session.transaction.abandoned = [] ∧
        (exec (perform ⟨outer.length, false⟩ st) h.session).2 = h'.session ∧
        h'.path = if st.isEnding then outer else k :: outer := by
  have hd : h.path.length - 1 = outer.length := by simp [hp]
  have hsession : (h.perform (.step st)).session =
      (exec (st.plain ⟨outer.length, false⟩) h.session).2 := by
    rw [History.perform, if_neg (by simp [hp]), hd]
    rfl
  have hpath : (h.perform (.step st)).path = k :: outer := by
    rw [History.perform, if_neg (by simp [hp])]
    exact hp
  have hs' := hs.perform (.step st)
  cases he : st.isEnding
  case false =>
    obtain ⟨heq, hr⟩ := Tx.Indifferent.plain he outer.length h.session (.of_abandoned_eq_nil ha)
    rw [exec_perform_of_not (by simp), exec_perform_of_not (by simp [he]), heq]
    refine ⟨rfl, h.perform (.step st), hs', ?_, hsession.symm, ?_⟩
    · rw [hsession, hr.abandoned, ha]
    · simpa using hpath
  case true =>
    let h₁ := h.perform (.step st)
    have hd₁ : h₁.path.length - 1 = outer.length := by simp [h₁, hpath]
    have hdrop : (h₁.perform .drop).session =
        (exec (Handle.drop ⟨outer.length, false⟩) h₁.session).2 := by
      rw [History.perform, if_neg (by simp [h₁, hpath]), hd₁]
      rfl
    have hpath' : (h₁.perform .drop).path = outer := by
      rw [History.perform, if_neg (by simp [h₁, hpath])]
      simp [h₁, hpath]
    obtain ⟨f, below, hf, hlen⟩ := hs.point.exists_frames hp
    have ht : outer.length = h.session.transaction.stack.top := hlen ▸ (Stack.top_eq hf).symm
    have hx := Tx.status_exec_ending he ht (hs.point.connection_of_open hp)
    rw [exec_perform_of_not (by simp), exec_perform_of_ending he, Tx.exec_plain_shared he (.of_abandoned_eq_nil ha) hx,
      ← hsession]
    refine ⟨rfl, h₁.perform .drop, hs'.perform .drop, ?_, hdrop.symm, by simpa using hpath'⟩
    rw [hdrop, Tx.abandoned_exec_drop, hsession, Tx.abandoned_exec_ending he, ha]

theorem nested_agrees (hp : h.path = k :: outer) :
    let (r, s) := exec (Handle.nested ⟨outer.length, false⟩) h.session
    exec (Handle.nested ⟨outer.length, true⟩) h.session = (r.map fun h => { h with shared := true }, s) ∧
      ∃ h' : History, h'.Sound settings n world ∧ h'.session.transaction.abandoned = [] ∧ s = h'.session ∧
        (r = .ok ⟨outer.length + 1, false⟩ ∧ h'.path = h.opened :: k :: outer ∨
          (∃ e, r = .error e) ∧ h'.path = k :: outer) := by
  have hn := Tx.Moves.nested_eq h hs hp
  dsimp only at hn ⊢
  refine ⟨Tx.exec_nested_shared (.of_abandoned_eq_nil ha), h.perform .nested, hs.perform .nested, ?_, hn.1.symm, hn.2⟩
  rw [hn.1, Tx.exec_nested]
  cases h.session.transaction.stack.push outer.length <;> exact ha

end

theorem run_agrees_of_sound (p : Program) {h : History} (hs : h.Sound settings n world)
    (ha : h.session.transaction.abandoned = []) :
    p.run (handles true h.path.length) h.session = p.run (handles false h.path.length) h.session := by
  induction p generalizing h
  case done => cases hp : h.path <;> rfl
  case step st next ih =>
    cases hp : h.path
    case nil => rfl
    case cons k outer =>
      have ⟨he, h', hs', ha', hsession, hpath⟩ := perform_agrees hs ha hp st
      rcases hx : exec (perform ⟨outer.length, false⟩ st) h.session with ⟨r, s⟩
      rw [hx] at hsession
      rw [List.length_cons, handles, handles, run, run, he, hx]
      dsimp only at hsession ⊢
      subst hsession
      have hrun := ih r hs' ha'
      rw [hpath] at hrun
      cases hend : st.isEnding
      case false =>
        rw [hend] at hrun
        exact congrArg (fun x => (r :: x.1, x.2)) hrun
      case true =>
        rw [hend] at hrun
        exact congrArg (fun x => (r :: x.1, x.2)) hrun
  case nested next ih =>
    cases hp : h.path
    case nil => rfl
    case cons k outer =>
      have hn := nested_agrees hs ha hp
      rcases hx : exec (Handle.nested ⟨outer.length, false⟩) h.session with ⟨r, s⟩
      rw [hx] at hn
      have ⟨he, h', hs', ha', hsession, hpath⟩ := hn
      rw [List.length_cons, handles, handles, run, run, he, hx]
      dsimp only at hsession ⊢
      subst hsession
      rcases hpath with ⟨rfl, hpath⟩ | ⟨⟨e, rfl⟩, hpath⟩
      case inl =>
        have hrun := ih (.ok ()) hs' ha'
        rw [hpath] at hrun
        exact congrArg (fun x => (.ok .nothing :: x.1, x.2)) hrun
      case inr =>
        have hrun := ih (.error e) hs' ha'
        rw [hpath] at hrun
        exact congrArg (fun x => (.error e :: x.1, x.2)) hrun

-- The same replies, and the same session in the end, with all that was sent, run and told on the way:
-- it makes no difference to such a program whether its handles are shared.
theorem run_agrees (settings : TransactionSettings) (n : Nat) (world : World Notes) (p : Program) :
    let begun : Session Notes := ⟨.new settings n, world⟩
    p.run [⟨0, true⟩] begun = p.run [⟨0, false⟩] begun := by
  have hs : (History.start settings n world).Sound settings n world := History.sound_start
  exact p.run_agrees_of_sound hs rfl

end Program

end PolySql
