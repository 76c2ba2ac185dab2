import Mathlib.Data.List.Forall2
import PolySql.Statement.Basic

namespace PolySql

theorem exists_of_mem_forall₂ {α β : Type} {r : α → β → Prop} {a : α} {as : List α} {bs : List β}
    (h : List.Forall₂ r as bs) (ha : a ∈ as) : ∃ b ∈ bs, r a b := by
  induction h
  case nil => nomatch ha
  case cons hab _ ih =>
    rcases List.mem_cons.mp ha with rfl | ha
    case inl => exact ⟨_, .head _, hab⟩
    case inr =>
      obtain ⟨b, hb, hr⟩ := ih ha
      exact ⟨b, .tail _ hb, hr⟩

namespace Result

variable {α β : Type} {r : Result α} {e : DatabaseError}

def failure? : Result α → Option DatabaseError
  | .ok _ => none
  | .error e => some e

theorem failure?_eq_none : failure? r = none ↔ ∃ a, r = .ok a := by
  cases r <;> simp [failure?]

theorem failure?_eq_some : failure? r = some e ↔ r = .error e := by
  cases r <;> simp [failure?]

theorem toOption_eq_some {a : α} : r.toOption = some a ↔ r = .ok a := by
  cases r <;> simp [Except.toOption]

theorem map_toOption_eq_some {f : α → β} {b : β} : r.toOption.map f = some b ↔ ∃ a, r = .ok a ∧ f a = b := by
  simp only [Option.map_eq_some_iff, toOption_eq_some]

-- A traversal fails as the first of its parts that fails.
theorem failure?_mapM {f : α → Result β} {g : α → Option DatabaseError} {as : List α}
    (h : ∀ a ∈ as, failure? (f a) = g a) : failure? (as.mapM f) = as.findSome? g := by
  induction as
  case nil => rfl
  case cons a as ih =>
    rw [List.forall_mem_cons] at h
    rw [List.mapM_cons, List.findSome?_cons, ← h.1, ← ih h.2]
    cases f a
    case error e => rfl
    case ok b => cases as.mapM f <;> rfl

theorem bind_eq_ok {f : α → Result β} {b : β} : r >>= f = .ok b ↔ ∃ a, r = .ok a ∧ f a = .ok b := by
  cases r
  case error e => exact iff_of_false nofun (by rintro ⟨_, ⟨⟩, _⟩)
  case ok a => exact ⟨fun h => ⟨a, rfl, h⟩, by rintro ⟨_, ⟨⟩, h⟩; exact h⟩

theorem map_eq_ok {f : α → β} {b : β} : r.map f = .ok b ↔ ∃ a, r = .ok a ∧ f a = b := by
  cases r <;> simp [Except.map]

theorem mapM_eq_ok {f : α → Result β} {as : List α} {bs : List β} :
    as.mapM f = .ok bs ↔ List.Forall₂ (fun a b => f a = .ok b) as bs := by
  induction as generalizing bs
  case nil =>
    rw [List.mapM_nil, List.forall₂_nil_left_iff]
    exact ⟨fun h => (Except.ok.inj h).symm, fun h => h ▸ rfl⟩
  case cons a as ih =>
    simp only [List.mapM_cons, List.forall₂_cons_left_iff, bind_eq_ok, ih]
    constructor
    case mp =>
      rintro ⟨b, hb, bs, hbs, ⟨⟩⟩
      exact ⟨b, bs, hb, hbs, rfl⟩
    case mpr =>
      rintro ⟨b, bs, hb, hbs, rfl⟩
      exact ⟨b, hb, bs, hbs, rfl⟩

-- Results that are all made from something.
theorem exists_map_of_mapM {γ : Type} {f : α → Result β} {g : γ → β} {s : α → γ → Prop} {p : γ → Prop} {as : List α}
    {bs : List β} (h : as.mapM f = .ok bs) (hs : ∀ a ∈ as, ∀ b, f a = .ok b → ∃ c, s a c ∧ p c ∧ b = g c) :
    ∃ cs, List.Forall₂ s as cs ∧ (∀ c ∈ cs, p c) ∧ bs = cs.map g := by
  rw [mapM_eq_ok] at h
  induction h
  case nil => exact ⟨[], .nil, nofun, rfl⟩
  case cons hab _ ih =>
    rw [List.forall_mem_cons] at hs
    obtain ⟨c, hc, hp, rfl⟩ := hs.1 _ hab
    obtain ⟨cs, hcs, hps, rfl⟩ := ih hs.2
    exact ⟨c :: cs, .cons hc hcs, List.forall_mem_cons.mpr ⟨hp, hps⟩, rfl⟩

theorem forall_of_mapM {f : α → Result β} {as : List α} {bs : List β} {p : β → Prop} (h : as.mapM f = .ok bs)
    (hp : ∀ a ∈ as, ∀ b, f a = .ok b → p b) : ∀ b ∈ bs, p b := by
  obtain ⟨cs, -, hcs, rfl⟩ := exists_map_of_mapM (g := id) (s := fun _ _ => True) h
    fun a ha b hb => ⟨b, trivial, hp a ha b hb, rfl⟩
  rwa [List.map_id]

end Result

theorem Context.of_command {cx : Context} (h : cx.command f = .ok c) :
    c = ⟨f.text cx.dialect 0, f.params⟩ ∧ c.params.length ≤ cx.dialect.maxParameters := by
  simp only [command] at h
  split at h
  case isTrue => nomatch h
  case isFalse hle =>
    cases h
    exact ⟨rfl, Nat.le_of_not_lt hle⟩

end PolySql
