import PolySql.Proofs.Transaction.Controls
import PolySql.Proofs.Transaction.History

namespace PolySql

-- The transaction has its connection as long as any of its frames is active.
def Transaction.Connected (t : Transaction) (n : Nat) : Prop :=
  ∀ f ∈ t.stack.frames, f.status = .active → t.connection = some n

namespace Transaction.Connected

variable {t t' : Transaction} {n depth : Nat}

theorem of_open (h : t.Connected n) (ho : t.stack.Open depth) : t.connection = some n := by
  have ha := ho.active
  rw [Stack.status] at ha
  split at ha
  case h_1 hf => exact h _ (List.mem_of_getElem? hf) ha
  case h_2 => cases ha

theorem of_connection (hc : t.connection = some n) : t.Connected n :=
  fun _ _ _ => hc

theorem of_forall (h : ∀ f ∈ t.stack.frames, f.status ≠ .active) : t.Connected n :=
  fun f hf ha => absurd ha (h f hf)

theorem new (settings : TransactionSettings) (n : Nat) : (Transaction.new settings n).Connected n :=
  of_connection rfl

theorem pop (h : t.Connected n) (depth : Nat) :
    Connected { t with stack := t.stack.pop depth } n := by
  intro f hf ha
  refine h f ?_ ha
  dsimp only [Stack.pop] at hf
  split at hf
  · exact List.mem_of_mem_take hf
  · exact hf

theorem rolledBack (s : Stack) : ∀ f ∈ (s.rolledBackFrom 0).2.frames, f.status ≠ .active := by
  simp only [Stack.rolledBackFrom, List.take_zero, List.nil_append, List.drop_zero, List.forall_mem_map]
  intro f _
  cases hf : f.status <;> simp [Frame.rolledBack, hf]

theorem aborting (h : Aborting m t es t') : t'.Connected n := by
  cases h
  exact of_forall (rolledBack _)

variable (h : t.Connected n)

include h

theorem running (hr : Running n depth t es t') : t'.Connected n := by
  cases hr
  case refused => exact h
  case ran ho _ _ => exact of_connection (h.of_open ho)
  case unprepared ha => exact aborting ha

theorem rollingBack (hr : RollingBack n depth t es r t') : t'.Connected n := by
  cases hr
  case refused => exact h
  case whole he _ =>
    refine of_forall ?_
    rw [Stack.rolledBack, if_pos he]
    exact rolledBack _
  case inner ho _ _ => exact of_connection (h.of_open ho)
  case failed ha => exact aborting ha

theorem committing (hr : Committing n depth t es r t') : t'.Connected n := by
  cases hr
  case refused => exact h
  case outermost ho hd _ =>
    subst hd
    refine of_forall fun f hf => ?_
    obtain ⟨g, hg⟩ : ∃ g, t.stack.frames = [g] := by
      have ha := ho.active
      have ht := ho.innermost
      rcases hs : t.stack.frames with _ | ⟨g, rest⟩
      case nil => simp [Stack.status, hs] at ha
      case cons =>
        rw [Stack.top, hs, List.length_cons, Nat.add_sub_cancel] at ht
        exact ⟨g, congrArg _ (List.eq_nil_of_length_eq_zero ht.symm)⟩
    obtain rfl : f = g.committed := by simpa [Stack.committed, hg] using hf
    simp [Frame.committed]
  case inner ho _ _ => exact of_connection (h.of_open ho)
  case outermostFailed ha => exact aborting ha
  case innerFailed hr => exact h.rollingBack hr

end Transaction.Connected

-- The sessions that come about by the use of handles which are not shared, in whatever order they are used
-- and dropped, and whatever the application does with its own notes meanwhile.
inductive Session.Used (settings : TransactionSettings) (n : Nat) (world : World Notes) :
    Session Notes → Prop
  | start : Used settings n world ⟨.new settings n, world⟩
  | step (depth : Nat) (step : Step) :
    Used settings n world s →
    Used settings n world (exec (step.plain ⟨depth, false⟩) s).2
  | nested (depth : Nat) :
    Used settings n world s →
    Used settings n world (exec (Handle.nested ⟨depth, false⟩) s).2
  | drop (depth : Nat) :
    Used settings n world s →
    Used settings n world (exec (Handle.drop ⟨depth, false⟩) s).2
  | note (notes : Notes) :
    Used settings n world s →
    Used settings n world { s with world := { s.world with application := notes } }

-- The computation keeps the connection of active frames.
def Tx.Connects {ρ α : Type} (n : Nat) (x : Tx ρ α) : Prop :=
  ∀ s : Session ρ, s.transaction.Connected n → (exec x s).2.transaction.Connected n

namespace Tx.Connects

variable {ρ α β : Type} {n : Nat} {x : Tx ρ α}

theorem of_hidden (h : Hidden x) : Connects n x := by
  intro s hs
  rwa [(h s).transaction]

theorem bind {f : α → Tx ρ β} (hx : Connects n x) (hf : ∀ a, Connects n (f a)) :
    Connects n (x >>= f) := by
  intro s hs
  have h := hx s hs
  rcases he : exec x s with ⟨e | a, s'⟩
  case error =>
    rw [he] at h
    rwa [exec_bind_of_error he]
  case ok =>
    rw [he] at h
    rw [exec_bind_of_ok he]
    exact hf a s' h

theorem runTask (depth : Nat) (operation sql : String) (ht : t.isControl = false) :
    Connects n (Tx.runTask depth operation sql t : Tx ρ Answer) := by
  intro s hs
  have ⟨es, r, s', he, _, hr⟩ := exec_runTask (fun (ho : s.transaction.stack.Open depth) => hs.of_open ho) operation sql ht
  rw [he]
  exact hs.running hr

theorem rollback (depth : Nat) : Connects n (Tx.rollback depth : Tx ρ Unit) := by
  intro s hs
  have ⟨es, r, s', he, _, hr⟩ := exec_rollback fun (ho : s.transaction.stack.Open depth) => hs.of_open ho
  rw [he]
  exact hs.rollingBack hr

theorem commit (depth : Nat) : Connects n (Tx.commit depth : Tx ρ Unit) := by
  intro s hs
  have ⟨es, r, s', he, _, hr⟩ := exec_commit fun (ho : s.transaction.stack.Open depth) => hs.of_open ho
  rw [he]
  exact hs.committing hr

-- A change of the stack that only the frame with the right to act can make.
theorem change {f : Stack → Result Stack}
    (hf : ∀ s s', f s = .ok s' → s.Open depth) :
    Connects n (Tx.change f : Tx ρ Unit) := by
  intro s hs
  rw [exec_change]
  cases he : f s.transaction.stack
  case error => exact hs
  case ok stack =>
    exact .of_connection (hs.of_open (hf _ _ he))

theorem enter : Connects n (Handle.enter ⟨depth, false⟩ : Tx ρ Unit) :=
  of_hidden (.of_forall fun _ => rfl)

theorem drop (depth : Nat) : Connects n (Handle.drop ⟨depth, false⟩ : Step.Run Unit) := by
  intro s hs
  have h := rollback depth s hs
  rw [exec_drop]
  exact h.pop depth

theorem nested (depth : Nat) : Connects n (Handle.nested ⟨depth, false⟩ : Step.Run Handle) := by
  have hpush : Connects n (Tx.change (·.push depth) : Step.Run Unit) :=
    change fun _ _ => Stack.open_of_push
  exact enter.bind fun _ => hpush.bind fun _ => of_hidden (.of_forall fun _ => rfl)

theorem silent {x : Step.Run Unit} (hx : Connects n x) : Connects n (Step.silent x) :=
  hx.bind fun _ => of_hidden (.of_forall fun _ => rfl)

theorem endBy {step : Nat → Step.Run Unit} (hs : Connects n (step depth)) :
    Connects n (Handle.endBy ⟨depth, false⟩ step) :=
  hs

theorem visits {step : Step} {x : Handle → Step.Run α} (hx : Visits step x) (depth : Nat) :
    Connects n (x ⟨depth, false⟩) := by
  induction hx
  case hidden hf => exact of_hidden (hf _)
  case enter => exact enter
  case runTask ht => exact runTask depth _ _ ht
  case bind hx hf => exact hx.bind hf

theorem plain (depth : Nat) (step : Step) : Connects n (step.plain ⟨depth, false⟩) := by
  rcases hf : step.change? with _ | f
  case some =>
    rw [Step.plain_of_change hf]
    exact silent (enter.bind fun _ => change fun _ _ hc => (Stack.of_change hf hc).1)
  case none =>
    cases he : step.isEnding
    case false => exact visits (Step.visits hf he) depth
    case true =>
      cases step
      case commit => exact silent (endBy (commit depth))
      case rollback => exact silent (endBy (rollback depth))
      all_goals nomatch he

end Tx.Connects

theorem Session.Used.connected {world : World Notes} {s : Session Notes} (h : s.Used settings n world) :
    s.transaction.Connected n := by
  induction h
  case start => exact .new settings n
  case step depth step _ ih => exact Tx.Connects.plain depth step _ ih
  case nested depth _ ih => exact Tx.Connects.nested depth _ ih
  case drop depth _ ih => exact Tx.Connects.drop depth _ ih
  case note ih => exact ih

end PolySql
