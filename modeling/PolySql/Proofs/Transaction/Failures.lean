import PolySql.Proofs.Transaction.Dialogue

namespace PolySql

-- The errors that a server answers with, and those by which a transaction refuses an operation, in any context.
inductive DatabaseError.Operational (server : Server) : DatabaseError → Prop
  | answered : server.respond before r = .error e → Operational server e
  | refused : e.Refuses → Operational server e
  | within (context : String) : Operational server e → Operational server (.withContext context e)

-- The server is the same, and more may have happened.
structure Session.Extends {ρ : Type} (s s' : Session ρ) : Prop where
  server : s'.world.server = s.world.server
  trace : s.world.trace <+: s'.world.trace

theorem Server.of_answerAll_error (server : Server) {before rs : List Request} {found : Answer}
    (h : (server.answerAll before found rs).2 = .error e) : e.Operational server := by
  induction rs generalizing before found
  case nil => nomatch h
  case cons r rs ih =>
    rw [answerAll] at h
    cases hr : server.respond before r
    case error e =>
      rw [hr] at h
      cases h
      exact .answered hr
    case ok a =>
      rw [hr] at h
      exact ih h

namespace Session.Extends

variable {ρ : Type} {s s' s'' : Session ρ}

theorem refl (s : Session ρ) : s.Extends s :=
  ⟨rfl, List.prefix_rfl⟩

theorem trans (h : s.Extends s') (h' : s'.Extends s'') : s.Extends s'' :=
  ⟨h'.server.trans h.server, h.trace.trans h'.trace⟩

theorem after (s : Session ρ) (es : List Event) : s.Extends (s.after es) :=
  ⟨rfl, List.prefix_append _ _⟩

theorem requests (h : s.Extends s') : ∃ sent, s'.world.requests = s.world.requests ++ sent := by
  obtain ⟨es, hes⟩ := h.trace
  exact ⟨es.flatMap Event.requests, by rw [World.requests, ← hes, List.flatMap_append, ← World.requests]⟩

end Session.Extends

theorem Stack.check_refuses {s : Stack} (h : s.check depth operation = .error e) : e.Refuses := by
  rw [check] at h
  split at h
  case isTrue =>
    cases h
    exact .closed _ _
  case isFalse =>
    split at h
    case isTrue =>
      cases h
      exact .nestedOpen _
    case isFalse => cases h

-- Where the right to act is checked first, no other error comes up.
theorem Stack.refuses_of_check_bind {α : Type} {s : Stack} {f : Unit → Result α} (hf : ∀ u, ∃ a, f u = .ok a)
    (h : s.check depth operation >>= f = .error e) : e.Refuses := by
  cases hc : s.check depth operation
  case error =>
    rw [hc] at h
    cases h
    exact check_refuses hc
  case ok u =>
    rw [hc] at h
    obtain ⟨a, ha⟩ := hf u
    cases ha.symm.trans h

namespace Tx

variable {ρ α β : Type} {s : Session ρ} {x : Tx ρ α}

-- From this session the computation goes on with the server, and fails only by operational errors.
structure Operates (s : Session ρ) (x : Tx ρ α) : Prop where
  extends_ : s.Extends (exec x s).2
  error : (exec x s).1 = .error e → e.Operational s.world.server

namespace Operates

theorem of_ok {a : α} {s' : Session ρ} (h : exec x s = (.ok a, s')) (hs : s.Extends s') : Operates s x :=
  ⟨by rwa [h], by rw [h]; nofun⟩

theorem throw (h : e.Operational s.world.server) : Operates s (MonadExcept.throw e : Tx ρ α) :=
  ⟨.refl s, fun he => Except.error.inj he ▸ h⟩

theorem ofResult {r : Result α} (h : ∀ e, r = .error e → e.Operational s.world.server) :
    Operates s (Tx.ofResult r : Tx ρ α) :=
  ⟨.refl s, h _⟩

theorem bind {f : α → Tx ρ β} (hx : Operates s x) (hf : ∀ a s', s.Extends s' → Operates s' (f a)) :
    Operates s (x >>= f) := by
  obtain ⟨hs, he⟩ := hx
  rcases h : exec x s with ⟨e | a, s'⟩
  all_goals rw [h] at hs he
  case error =>
    constructor <;> rw [exec_bind_of_error h]
    case extends_ => exact hs
    case error =>
      rintro e ⟨⟩
      exact he rfl
  case ok =>
    have hf := hf a s' hs
    constructor <;> rw [exec_bind_of_ok h]
    case extends_ => exact hs.trans hf.extends_
    case error =>
      intro e h
      exact hs.server ▸ hf.error h

-- What comes of a step is known to what follows.
theorem outcome_bind {f : Result α → Tx ρ β} (hx : Operates s x)
    (hf : ∀ r s', s.Extends s' → (∀ e, r = .error e → e.Operational s'.world.server) → Operates s' (f r)) :
    Operates s (x.outcome >>= f) := by
  have h := hf (exec x s).1 (exec x s).2 hx.extends_ fun e he => hx.extends_.server.symm ▸ hx.error he
  constructor <;> rw [exec_bind, exec_outcome]
  case extends_ => exact hx.extends_.trans h.extends_
  case error =>
    intro e he
    exact hx.extends_.server ▸ h.error he

theorem ignore (hx : Operates s x) : Operates s x.ignore :=
  hx.outcome_bind fun _ s' _ _ => .of_ok (exec_pure ()) (.refl s')

theorem notify (s : Session ρ) (n : Notice) : Operates s (Tx.notify n : Tx ρ Unit) :=
  .of_ok (exec_notify n) (.after s _)

theorem runHooks (s : Session ρ) (hooks : List String) : Operates s (Tx.runHooks hooks : Tx ρ Unit) :=
  .of_ok (exec_runHooks hooks) (.after s _)

theorem setStack (s : Session ρ) (stack : Stack) : Operates s (Tx.setStack stack : Tx ρ Unit) :=
  .of_ok (exec_setStack stack) ⟨rfl, List.prefix_rfl⟩

theorem disconnect (s : Session ρ) : Operates s (Tx.disconnect : Tx ρ Unit) :=
  .of_ok exec_disconnect ⟨rfl, List.prefix_rfl⟩

theorem perform (s : Session ρ) (operation : String) (t : Task) :
    Operates s (Tx.perform operation t : Tx ρ Answer) := by
  cases hc : s.transaction.connection
  case none =>
    have hx : exec (Tx.perform operation t) s =
        (.error (.transactionClosed (s.transaction.stack.status 0) operation), s) := by
      simp [Tx.perform, exec_bind, hc]
    constructor <;> rw [hx]
    case extends_ => exact .refl s
    case error =>
      rintro e ⟨⟩
      exact .refused (.closed _ _)
  case some n =>
    have hx := exec_perform_of_connected hc operation t
    constructor <;> rw [hx]
    case extends_ => exact .after s _
    case error => exact s.world.server.of_answerAll_error

theorem control (s : Session ρ) (c : Control) : Operates s (Tx.control c : Tx ρ Unit) := by
  refine (perform s _ _).outcome_bind fun r s' _ hr => ?_
  cases r
  case ok => exact .of_ok (exec_pure ()) (.refl s')
  case error e => exact .throw (.within _ (hr e rfl))

theorem forM_control (s : Session ρ) (cs : List Control) : Operates s (cs.forM Tx.control : Tx ρ Unit) := by
  induction cs generalizing s
  case nil => exact .of_ok (exec_pure ()) (.refl s)
  case cons c rest ih => exact (control s c).bind fun _ s' _ => ih s'

theorem apply (s : Session ρ) (cs : List Control) : Operates s (Tx.apply cs : Tx ρ Unit) := by
  cases cs
  case nil => exact .of_ok (exec_pure ()) (.refl s)
  case cons c rest =>
    refine bind (.of_ok exec_transaction (.refl s)) fun t s' _ => ?_
    split
    case isTrue => exact bind (.throw (.refused (.closed _ _))) fun _ s' _ => forM_control s' _
    case isFalse => exact forM_control s' _

theorem abort (s : Session ρ) : Operates s (Tx.abort : Tx ρ Unit) :=
  bind (.of_ok exec_stack (.refl s)) fun _ s _ => (setStack s _).bind fun _ s _ => (apply s _).ignore.bind
    fun _ s _ => (disconnect s).bind fun _ s _ => runHooks s _

-- After controls that fail, all is given up.
theorem apply_or_abort (s : Session ρ) (cs : List Control) {f : Tx ρ α} (hf : ∀ s, Operates s f) :
    Operates s ((Tx.apply cs).outcome >>= fun
      | .error e => do
        Tx.abort
        MonadExcept.throw e
      | .ok () => f) := by
  refine (apply s cs).outcome_bind fun r s hs hr => ?_
  cases r
  case ok => exact hf s
  case error e => exact (abort s).bind fun _ s' hs' => .throw (hs'.server ▸ hr e rfl)

theorem runTask (s : Session ρ) (depth : Nat) (operation sql : String) (t : Task) :
    Operates s (Tx.runTask depth operation sql t : Tx ρ Answer) := by
  refine bind (.of_ok exec_settings (.refl s)) fun settings s _ => bind (.of_ok exec_stack (.refl s)) fun stack s _ =>
    bind (.ofResult fun e he => ?_) fun (controls, stack) s _ => (setStack s stack).bind fun _ s _ =>
      apply_or_abort s controls fun s => (notify s _).bind fun _ s _ => (perform s operation t).outcome_bind
        fun r s _ hr => (notify s _).bind fun _ s' hs' => .ofResult fun e he => ?_
  case refine_1 => exact .refused (Stack.refuses_of_check_bind (fun _ => ⟨_, rfl⟩) he)
  case refine_2 =>
    cases r
    case ok => cases he
    case error e =>
      cases he
      exact .within _ (hs'.server ▸ hr e rfl)

theorem rollback (s : Session ρ) (depth : Nat) : Operates s (Tx.rollback depth : Tx ρ Unit) := by
  refine bind (.of_ok exec_stack (.refl s)) fun stack s _ => bind (.ofResult fun e he => ?_) fun controls s _ => ?_
  case refine_1 =>
    refine .refused (Stack.refuses_of_check_bind (fun _ => ?_) he)
    split <;> exact ⟨_, rfl⟩
  case refine_2 =>
    cases stack.rollsBackEverything depth
    case true =>
      exact (notify s _).bind fun _ s _ => apply_or_abort s controls fun s => (setStack s _).bind fun _ s _ =>
        (disconnect s).bind fun _ s _ => (notify s _).bind fun _ s _ => runHooks s _
    case false =>
      exact apply_or_abort s controls fun s => (setStack s _).bind fun _ s _ => runHooks s _

theorem setAbandoned (s : Session ρ) (depths : List Nat) : Operates s (Handle.setAbandoned depths : Tx ρ Unit) :=
  .of_ok (exec_modify _) ⟨rfl, List.prefix_rfl⟩

theorem discard (s : Session ρ) (depth : Nat) : Operates s (Handle.discard depth : Tx ρ Unit) := by
  refine bind (.of_ok exec_stack (.refl s)) fun stack s _ => ?_
  split
  case isTrue =>
    exact (rollback s depth).ignore.bind fun _ s _ => bind (.of_ok exec_stack (.refl s)) fun _ s _ => setStack s _
  case isFalse => exact bind (.of_ok exec_stack (.refl s)) fun _ s _ => setStack s _

theorem discardAbandoned (s : Session ρ) (fuel : Nat) : Operates s (Handle.discardAbandoned fuel : Tx ρ Unit) := by
  induction fuel generalizing s
  case zero => exact .of_ok (exec_pure ()) (.refl s)
  case succ fuel ih =>
    refine bind (.of_ok exec_transaction (.refl s)) fun t s _ => ?_
    split
    case isTrue => exact (setAbandoned s _).bind fun _ s _ => (discard s _).bind fun _ s _ => ih s
    case isFalse => exact .of_ok (exec_pure ()) (.refl s)

theorem enter (s : Session ρ) (h : Handle) : Operates s (h.enter : Tx ρ Unit) := by
  unfold Handle.enter
  split
  case isTrue => exact bind (.of_ok exec_transaction (.refl s)) fun _ s _ => discardAbandoned s _
  case isFalse => exact .of_ok (exec_pure ()) (.refl s)

theorem runExecute (s : Session ρ) (h : Handle) (c : Command) : Operates s (h.runExecute c : Tx ρ Nat) :=
  bind ((enter s h).bind fun _ s _ => runTask s _ _ _ _) fun _ s _ => .of_ok (exec_pure _) (.refl s)

end Operates

-- A statement that succeeds is the last one that was sent.
theorem requests_of_runExecute {h : Handle} {c : Command} {n : Nat} {s' : Session ρ}
    (hx : exec (h.runExecute c) s = (.ok n, s')) :
    ∃ sent, s'.world.requests = s.world.requests ++ sent ++ [.execute c.sql c.params] := by
  obtain ⟨sent, hsent⟩ := (Operates.enter s h).extends_.requests
  rw [Handle.runExecute, exec_bind] at hx
  split at hx
  case h_2 => cases hx
  case h_1 a s₁ ha =>
    cases hx
    rw [Handle.runTask, exec_bind_of_ok (exec_enter h)] at ha
    obtain ⟨-, -, -, more, hmore⟩ := of_exec_runTask_eq_ok ha
    exact ⟨sent ++ more, by rw [hmore, hsent, Task.requests, List.append_assoc s.world.requests]⟩

end Tx

end PolySql
