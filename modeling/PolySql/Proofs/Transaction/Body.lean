import Mathlib
import PolySql.Proofs.Transaction.History

namespace PolySql

def Move.isUse : Move → Bool
  | note _ => false
  | _ => true

-- What a scope may do before it drops its handle.
def Step.endings : Language Move :=
  {[], [.step .commit], [.step .rollback]}

mutual

-- The moves that a step may come down to, and steps of which those after a failure may be left out.
def Step.course : Step → Language Move
  | nested steps _ => {[.nested]} + {[.nested]} * (Step.courses steps * {[.drop]})
  | scope steps => {[.nested]} + {[.nested]} * (Step.courses steps * (Step.endings * {[.drop]}))
  | caught step => step.course
  | step => {[.step step]}

def Step.courses : List Step → Language Move
  | [] => 1
  | step :: rest => step.course * (1 + Step.courses rest)

end

theorem Step.nil_mem_endings : [] ∈ Step.endings :=
  .inl rfl

-- The computation comes down to moves, from and to the given handles, and does not fail.
def Tx.Moves {α : Type} (settings : TransactionSettings) (n : Nat) (path path' : List Nat)
    (x : Step.Run α) (course : Language Move) : Prop :=
  ∀ (h : History) (world : World Notes), h.Sound settings n world → h.path = path →
    ∃ moves a, moves.filter Move.isUse ∈ course ∧ exec x h.session = (.ok a, (h.run moves).session) ∧
      (h.run moves).path = path'

namespace Tx

variable {α β : Type} {s : Session Notes}

theorem exec_outcome_bind (x : Step.Run α) (f : α → Step.Run β) :
    exec (x >>= f).outcome s = exec (x.outcome >>= fun
      | .ok a => (f a).outcome
      | .error e => Pure.pure (.error e)) s := by
  rw [exec_outcome, exec_bind, exec_bind, exec_outcome]
  rcases exec x s with ⟨_ | _, _⟩ <;> rfl

theorem exec_finish (depth : Nat) (r : Result α) (s : Session Notes) :
    exec (Handle.finish ⟨depth, false⟩ r) s =
      if s.transaction.stack.status depth ≠ .active then
        (r, (exec (Handle.drop ⟨depth, false⟩) s).2)
      else match r with
        | .ok a =>
          let (ended, s') := exec (Handle.commit ⟨depth, false⟩) s
          (ended.map fun _ => a, (exec (Handle.drop ⟨depth, false⟩) s').2)
        | .error e =>
          let s' := (exec (Handle.rollback ⟨depth, false⟩) s).2
          (.error e, (exec (Handle.drop ⟨depth, false⟩) s').2) := by
  have hstatus : exec (Handle.status ⟨depth, false⟩) s =
      (.ok (s.transaction.stack.status depth), s) := rfl
  have hdrop : ∀ s : Session Notes, exec (Handle.drop ⟨depth, false⟩) s =
      (.ok (), (exec (Handle.drop ⟨depth, false⟩) s).2) := fun s => by rw [exec_drop]
  unfold Handle.finish
  rw [exec_bind_of_ok hstatus]
  split
  case isTrue => rw [exec_bind_of_ok (hdrop s), exec_ofResult]
  case isFalse =>
    cases r
    case ok a =>
      dsimp only
      rw [exec_bind, exec_outcome]
      exact exec_bind_of_ok (hdrop _)
    case error e =>
      dsimp only
      rw [exec_bind, exec_ignore]
      exact exec_bind_of_ok (hdrop _)

end Tx

namespace Tx.Moves

variable {α β : Type} {settings : TransactionSettings} {n : Nat} {k : Nat}
  {path path₁ path' : List Nat} {c c' : Language Move}

theorem bind {x : Step.Run α} {f : α → Step.Run β} (hx : Moves settings n path path₁ x c)
    (hf : ∀ a, Moves settings n path₁ path' (f a) c') :
    Moves settings n path path' (x >>= f) (c * c') := by
  intro h world hs hp
  have ⟨moves, a, hc, he, hp'⟩ := hx h world hs hp
  have ⟨moves', b, hc', he', hp''⟩ := hf a (h.run moves) world (hs.run moves) hp'
  have hrun : h.run (moves ++ moves') = (h.run moves).run moves' := List.foldl_append
  refine ⟨moves ++ moves', b, ?_, ?_, ?_⟩
  · rw [List.filter_append]
    exact Language.append_mem_mul hc hc'
  · rw [exec_bind_of_ok he, he', hrun]
  · rw [hrun, hp'']

theorem congr {x y : Step.Run α} (hy : Moves settings n path path' y c)
    (he : ∀ s, exec x s = exec y s) : Moves settings n path path' x c := by
  intro h world hs hp
  rw [he]
  exact hy h world hs hp

theorem bindOutcome {x : Step.Run α} {f : α → Step.Run β} (hx : Moves settings n path path₁ x c)
    (hf : ∀ a, Moves settings n path₁ path' (f a).outcome c') :
    Moves settings n path path' (x >>= f).outcome (c * c') := by
  intro h world hs hp
  have ⟨moves, a, hm, he, hp'⟩ := hx.bind hf h world hs hp
  refine ⟨moves, a, hm, ?_, hp'⟩
  have ⟨_, b, _, hb, _⟩ := hx h world hs hp
  rw [exec_bind_of_ok hb] at he
  rw [exec_outcome, exec_bind_of_ok hb, ← exec_outcome, he]

theorem returning {x : Step.Run α} (hx : Moves settings n path path' x c) (f : α → β) :
    Moves settings n path path' (x >>= fun a => Pure.pure (f a)) c := by
  intro h world hs hp
  have ⟨moves, a, hm, he, hp'⟩ := hx h world hs hp
  exact ⟨moves, f a, hm, by rw [exec_bind_of_ok he, exec_pure], hp'⟩

theorem mono {x : Step.Run α} (hx : Moves settings n path path' x c) (hc : c ≤ c') :
    Moves settings n path path' x c' := by
  intro h world hs hp
  have ⟨moves, a, hm, he, hp'⟩ := hx h world hs hp
  exact ⟨moves, a, hc hm, he, hp'⟩

-- Only the notes are changed, if anything is.
theorem noting {x : Step.Run α} (hx : ∀ s, ∃ a notes,
    exec x s = (.ok a, { s with world := { s.world with application := notes } })) :
    Moves settings n (k :: path) (k :: path) x 1 := by
  intro h world hs hp
  have ⟨a, notes, he⟩ := hx h.session
  refine ⟨[.note notes], a, rfl, ?_, ?_⟩
  · rw [he, History.run, List.foldl_cons, List.foldl_nil, History.perform, if_neg (by simp [hp])]
  · rw [History.run, List.foldl_cons, List.foldl_nil, History.perform, if_neg (by simp [hp])]
    exact hp

theorem pure (a : α) : Moves settings n (k :: path) (k :: path) (Pure.pure a) 1 :=
  noting fun s => ⟨a, s.world.application, rfl⟩

theorem notes : Moves settings n (k :: path) (k :: path) Step.notes 1 :=
  noting fun s => ⟨s.world.application, s.world.application, rfl⟩

theorem setNotes (notes : Notes) : Moves settings n (k :: path) (k :: path) (Step.setNotes notes) 1 :=
  noting fun _ => ⟨(), notes, rfl⟩

theorem report (handle : Handle) (result : Result Reply) (inner : Option (List Report)) :
    Moves settings n (k :: path) (k :: path) (Step.report handle result inner) 1 :=
  noting fun _ => ⟨_, _, rfl⟩

-- One move.
theorem moved {x : Step.Run α} (m : Move) (hm : m.isUse = true) (hc : [m] ∈ c)
    (hx : ∀ (h : History) (world : World Notes), h.Sound settings n world → h.path = path →
      ∃ a, exec x h.session = (.ok a, (h.perform m).session) ∧ (h.perform m).path = path') :
    Moves settings n path path' x c := by
  intro h world hs hp
  have ⟨a, he, hp'⟩ := hx h world hs hp
  refine ⟨[m], a, ?_, he, hp'⟩
  rwa [List.filter_singleton, hm]

theorem step (outer : List Nat) (step : Step) :
    Moves settings n (k :: outer) (k :: outer) (step.plain ⟨outer.length, false⟩).outcome
      {[.step step]} := by
  refine moved (.step step) rfl rfl fun h world hs hp => ?_
  refine ⟨(exec (step.plain ⟨outer.length, false⟩) h.session).1, ?_, ?_⟩
  · rw [exec_outcome, History.perform, if_neg (by simp [hp]), hp]
    rfl
  · rw [History.perform, if_neg (by simp [hp])]
    exact hp

theorem dropped (outer : List Nat) :
    Moves settings n (k :: outer) outer (Handle.drop ⟨outer.length, false⟩) {[.drop]} := by
  refine moved .drop rfl rfl fun h world hs hp => ⟨(), ?_, ?_⟩
  · rw [exec_drop, History.perform, if_neg (by simp [hp]), hp]
    rw [List.length_cons, Nat.add_sub_cancel]
    dsimp only [History.advance]
    rw [exec_drop]
  · rw [History.perform, if_neg (by simp [hp]), hp]
    rfl

-- The handle of a frame that was opened is the innermost one.
theorem nested_eq (h : History) (hs : h.Sound settings n world) (hp : h.path = k :: outer) :
    let (r, s) := exec (Handle.nested ⟨outer.length, false⟩) h.session
    (h.perform .nested).session = s ∧
      (r = .ok ⟨outer.length + 1, false⟩ ∧ (h.perform .nested).path = h.opened :: k :: outer ∨
        (∃ e, r = .error e) ∧ (h.perform .nested).path = k :: outer) := by
  rw [History.perform, if_neg (by simp [hp]), hp]
  rw [List.length_cons, Nat.add_sub_cancel]
  dsimp only
  rw [exec_nested]
  cases hc : h.session.transaction.stack.push outer.length
  case error e => exact ⟨rfl, .inr ⟨⟨e, rfl⟩, hp⟩⟩
  case ok stack =>
    obtain ⟨_, htop⟩ := hs.point.leads_of_push hp (m := .nested) hc
    have ht : stack.top = outer.length + 1 := by rw [htop, History.point, hp, List.length_cons]
    refine ⟨rfl, .inl ⟨?_, rfl⟩⟩
    dsimp only
    rw [ht]

theorem opened {f : Result Handle → Step.Run α}
    (hf : ∀ i, Moves settings n (i :: k :: outer) (k :: outer) (f (.ok ⟨outer.length + 1, false⟩)) c)
    (he : ∀ e, Moves settings n (k :: outer) (k :: outer) (f (.error e)) 1) :
    Moves settings n (k :: outer) (k :: outer)
      ((Handle.nested ⟨outer.length, false⟩).outcome >>= f) ({[.nested]} + {[.nested]} * c) := by
  intro h world hs hp
  have hn := nested_eq h hs hp
  rcases hx : exec (Handle.nested ⟨outer.length, false⟩) h.session with ⟨r, s⟩
  rw [hx] at hn
  have ⟨hsession, hn⟩ := hn
  have hs' := hs.perform .nested
  have hout : exec (Handle.nested ⟨outer.length, false⟩).outcome h.session =
      (.ok r, (h.perform .nested).session) := by rw [exec_outcome, hx, hsession]
  rw [exec_bind_of_ok hout]
  rcases hn with ⟨rfl, hp'⟩ | ⟨⟨e, rfl⟩, hp'⟩
  case inl =>
    have ⟨moves, a, hm, hrun, hp''⟩ := hf h.opened _ world hs' hp'
    have hone : [Move.nested] ∈ ({[.nested]} : Language Move) := rfl
    exact ⟨.nested :: moves, a, .inr (Language.append_mem_mul hone hm), hrun, hp''⟩
  case inr =>
    have ⟨moves, a, hm, hrun, hp''⟩ := he e _ world hs' hp'
    refine ⟨.nested :: moves, a, .inl ?_, hrun, hp''⟩
    rw [List.filter_cons_of_pos rfl, (Language.mem_one _).mp hm]
    rfl

-- A handle is used up.
theorem finished (outer : List Nat) (r : Result α) :
    Moves settings n (k :: outer) outer (Handle.finish ⟨outer.length, false⟩ r).outcome
      (Step.endings * {[.drop]}) := by
  intro h world hs hp
  -- whichever way is taken, it is a step or none, and then the drop
  have hway : ∀ (y : Step.Run Unit) ending, Moves settings n (k :: outer) outer y ({ending} * {[.drop]}) →
      ending ∈ Step.endings →
      (exec (Handle.finish ⟨outer.length, false⟩ r) h.session).2 = (exec y h.session).2 →
      ∃ moves a, moves.filter Move.isUse ∈ Step.endings * {[.drop]} ∧
        exec (Handle.finish ⟨outer.length, false⟩ r).outcome h.session = (.ok a, (h.run moves).session) ∧
        (h.run moves).path = outer := by
    intro y ending hy hmem he
    have ⟨moves, b, hm, hrun, hp'⟩ := hy h world hs hp
    have ⟨l, hl, d, hd, hld⟩ := Language.mem_mul.mp hm
    cases hl
    refine ⟨moves, (exec (Handle.finish ⟨outer.length, false⟩ r) h.session).1,
      hld ▸ Language.append_mem_mul hmem hd, ?_, hp'⟩
    rw [exec_outcome, he, hrun]
  by_cases ha : h.session.transaction.stack.status outer.length ≠ .active
  case pos =>
    have hone : ({[]} * {[.drop]} : Language Move) = {[.drop]} := one_mul _
    refine hway _ [] ((dropped outer).mono hone.ge) Step.nil_mem_endings ?_
    rw [exec_finish, if_pos ha]
  case neg =>
    cases r
    case ok a =>
      refine hway _ _ ((step outer .commit).bind fun _ => dropped outer) (.inr (.inl rfl)) ?_
      rw [exec_finish, if_neg ha, exec_bind, exec_outcome]
      dsimp only
      rw [Step.plain, exec_silent]
    case error e =>
      refine hway _ _ ((step outer .rollback).bind fun _ => dropped outer) (.inr (.inr rfl)) ?_
      rw [exec_finish, if_neg ha, exec_bind, exec_outcome]
      dsimp only
      rw [Step.plain, exec_silent]

theorem closed (outcome : List Report × Result Unit) :
    Moves settings n (k :: path) (k :: path) (Step.close outcome).outcome 1 :=
  noting fun _ => ⟨_, _, rfl⟩

theorem withBody {x : Step.Run Reply} (hx : Moves settings n (k :: path) (k :: path) x.outcome c) :
    Moves settings n (k :: path) (k :: path) (Step.withBody x) c := by
  have h : Moves settings n (k :: path) (k :: path) (Step.withBody x)
      (1 * (1 * (1 * (c * (1 * (1 * 1)))))) :=
    notes.bind fun _ => notes.bind fun _ => (setNotes _).bind fun _ =>
      hx.bind fun _ => notes.bind fun _ => (setNotes _).bind fun _ => pure _
  simpa only [one_mul, mul_one] using h

theorem finishedNested (outer : List Nat) (ending : Ending) :
    Moves settings n (k :: outer) outer (Step.finishNested ⟨outer.length, false⟩ ending).outcome
      {[.drop]} := by
  intro h world hs hp
  have ⟨moves, a, hm, hrun, hp'⟩ := dropped outer h world hs hp
  have hstatus : exec (Step.finishNested ⟨outer.length, false⟩ ending) h.session =
      (.ok (.status (h.session.transaction.stack.status outer.length)), (h.run moves).session) := by
    unfold Step.finishNested
    simp only [Bool.not_false, if_true, exec_bind, exec_stack, hrun, exec_pure]
  exact ⟨moves, _, hm, by rw [exec_outcome, hstatus], hp'⟩

theorem scope {body : Handle → Step.Run Reply}
    (hb : ∀ i, Moves settings n (i :: k :: outer) (i :: k :: outer)
      (body ⟨outer.length + 1, false⟩).outcome c) :
    Moves settings n (k :: outer) (k :: outer) (Handle.scope ⟨outer.length, false⟩ body).outcome
      ({[.nested]} + {[.nested]} * (c * (Step.endings * {[.drop]}))) := by
  refine congr (opened ?_ ?_) fun _ => exec_outcome_bind _ _
  case refine_1 =>
    intro i
    refine congr ((hb i).bind fun r => finished (k :: outer) r) fun _ => ?_
    rw [exec_outcome_bind]
    rfl
  case refine_2 => exact fun e => pure _

end Tx.Moves

section

variable {settings : TransactionSettings} {n : Nat}

open Tx.Moves

mutual

theorem Step.moves_perform (k : Nat) (outer : List Nat) (step : Step) :
    Tx.Moves settings n (k :: outer) (k :: outer) (step.perform ⟨outer.length, false⟩) step.course := by
  cases step
  case nested steps ending =>
    rw [Step.perform, Step.course]
    refine opened (fun i => ?_) fun e => pure _
    exact (Step.moves_runAll i (k :: outer) steps).bind fun _ =>
      (finishedNested (k :: outer) ending).returning _
  case scope steps =>
    rw [Step.perform, Step.course]
    refine Tx.Moves.withBody (Tx.Moves.scope fun i => ?_)
    rw [← mul_one (Step.courses steps)]
    exact (Step.moves_runUntil i (k :: outer) steps).bindOutcome fun _ => Tx.Moves.closed _
  case caught step =>
    rw [Step.perform, Step.course]
    exact Step.moves_perform k outer step
  all_goals
    simp only [Step.perform, Step.course]
    exact (Tx.Moves.step outer _).returning _

theorem Step.moves_runAll (k : Nat) (outer : List Nat) (steps : List Step) :
    Tx.Moves settings n (k :: outer) (k :: outer) (Step.runAll ⟨outer.length, false⟩ steps)
      (Step.courses steps) := by
  cases steps
  case nil => exact pure []
  case cons step rest =>
    rw [Step.runAll, Step.courses]
    refine (Step.moves_perform k outer step).bind fun ⟨result, inner⟩ => ?_
    rw [← one_mul (1 + Step.courses rest)]
    refine (Tx.Moves.report _ result inner).bind fun first => Tx.Moves.returning ?_ _
    exact (Step.moves_runAll k outer rest).mono fun _ h => .inr h

theorem Step.moves_runUntil (k : Nat) (outer : List Nat) (steps : List Step) :
    Tx.Moves settings n (k :: outer) (k :: outer) (Step.runUntil ⟨outer.length, false⟩ steps)
      (Step.courses steps) := by
  cases steps
  case nil => exact pure _
  case cons step rest =>
    rw [Step.runUntil, Step.courses]
    refine (Step.moves_perform k outer step).bind fun ⟨result, inner⟩ => ?_
    rw [← one_mul (1 + Step.courses rest)]
    refine (Tx.Moves.report _ result inner).bind fun first => ?_
    split
    · exact (Tx.Moves.pure _).mono fun _ h => .inl h
    · refine Tx.Moves.returning ?_ _
      exact (Step.moves_runUntil k outer rest).mono fun _ h => .inr h

end

theorem Step.moves_body (k : Nat) (outer : List Nat) (steps : List Step) :
    Tx.Moves settings n (k :: outer) (k :: outer) (Step.body steps ⟨outer.length, false⟩).outcome
      (Step.courses steps) := by
  rw [← mul_one (Step.courses steps)]
  exact (Step.moves_runUntil k outer steps).bindOutcome fun _ => Tx.Moves.closed _

end

end PolySql
