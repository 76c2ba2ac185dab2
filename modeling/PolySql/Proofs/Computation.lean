import Mathlib.Tactic.Common
import PolySql.Error

namespace PolySql

variable {σ α β : Type} {s : σ}

-- A computation as a function of the state.
def exec (x : ExceptT DatabaseError (StateM σ) α) (s : σ) : Result α × σ :=
  x.run s

theorem eq_of_exec_eq {x y : ExceptT DatabaseError (StateM σ) α} (h : ∀ s, exec x s = exec y s) : x = y :=
  funext h

@[simp]
theorem exec_pure (a : α) : exec (pure a) s = (.ok a, s) :=
  rfl

@[simp]
theorem exec_throw (e : DatabaseError) : exec (throw e) s = ((.error e : Result α), s) :=
  rfl

@[simp]
theorem exec_get : exec get s = (.ok s, s) :=
  rfl

@[simp]
theorem exec_set (s' : σ) : exec (set s') s = (.ok (), s') :=
  rfl

@[simp]
theorem exec_modify (f : σ → σ) : exec (modify f) s = (.ok (), f s) :=
  rfl

theorem exec_bind (x : ExceptT DatabaseError (StateM σ) α)
    (f : α → ExceptT DatabaseError (StateM σ) β) :
    exec (x >>= f) s = match exec x s with
      | (.ok a, s') => exec (f a) s'
      | (.error e, s') => (.error e, s') := by
  change StateT.bind x.run (ExceptT.bindCont f) s = _
  unfold exec StateT.bind
  rcases x.run s with ⟨_ | _, _⟩ <;> rfl

variable {x : ExceptT DatabaseError (StateM σ) α}

theorem exec_bind_of_ok {f : α → ExceptT DatabaseError (StateM σ) β} (h : exec x s = (.ok a, s')) :
    exec (x >>= f) s = exec (f a) s' := by
  simp [exec_bind, h]

theorem exec_bind_of_error {f : α → ExceptT DatabaseError (StateM σ) β}
    (h : exec x s = (.error e, s')) : exec (x >>= f) s = (.error e, s') := by
  simp [exec_bind, h]

theorem of_exec_bind {f : α → ExceptT DatabaseError (StateM σ) β} {b : β} (h : exec (x >>= f) s = (.ok b, s'')) :
    ∃ a s', exec x s = (.ok a, s') ∧ exec (f a) s' = (.ok b, s'') := by
  rcases he : exec x s with ⟨e | a, s'⟩
  case error =>
    rw [exec_bind_of_error he] at h
    nomatch h
  case ok => exact ⟨a, s', rfl, exec_bind_of_ok he ▸ h⟩

theorem exec_map (f : α → β) : exec (f <$> x) s = ((exec x s).1.map f, (exec x s).2) := by
  rw [map_eq_pure_bind, exec_bind]
  rcases exec x s with ⟨_ | _, _⟩ <;> rfl

end PolySql
