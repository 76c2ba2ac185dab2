import PolySql.Proofs.Sql.Outcome

namespace PolySql

open Fragment

-- The fragment made of another has the same before it and after it, whatever the other is.
def Inserts (g : Fragment → Fragment) : Prop :=
  ∃ before after, ∀ f, g f = before ++ f ++ after

namespace Inserts

variable {g : Fragment → Fragment}

theorem id : Inserts fun f => f :=
  ⟨[], [], fun f => (List.append_nil f).symm⟩

theorem left (h : Inserts g) (before : Fragment) : Inserts fun f => before ++ g f := by
  obtain ⟨b, a, h⟩ := h
  exact ⟨before ++ b, a, fun f => by simp [h]⟩

theorem right (h : Inserts g) (after : Fragment) : Inserts fun f => g f ++ after := by
  obtain ⟨b, a, h⟩ := h
  exact ⟨b, a ++ after, fun f => by simp [h]⟩

theorem parenthesised (h : Inserts g) : Inserts fun f => Fragment.parenthesised (g f) :=
  (h.left (words "(")).right (words ")")

theorem joined (h : Inserts g) (separator : String) (before after : List Fragment) :
    Inserts fun f => Fragment.joined separator (before ++ g f :: after) := by
  induction before
  case nil =>
    cases after
    case nil => exact h
    case cons a r => exact h.right (.words separator :: Fragment.joined separator (a :: r))
  case cons b l ih =>
    have hjoined (f : Fragment) : Fragment.joined separator (b :: l ++ g f :: after) =
        (b ++ words separator) ++ Fragment.joined separator (l ++ g f :: after) := by
      rw [List.cons_append, Fragment.joined]
      · simp [words]
      · simp
    simp only [hjoined]
    exact ih.left _

end Inserts

-- What is written of a source stands in the result, with the same before it and after it for every source, unless there
-- is no result of any. Where the source is not written, the result is the same for all.
def Embeds {α : Type} (isWritten : Bool) (source r : α → Result Fragment) : Prop :=
  match isWritten with
  | true => (∀ a f, r a ≠ .ok f) ∨ ∃ before after, ∀ a, r a = (source a).map fun f => before ++ f ++ after
  | false => ∃ f, ∀ a, r a = f

namespace Embeds

variable {α β : Type} {isWritten : Bool} {source r r' : α → Result Fragment} {k : Fragment → Result Fragment}

theorem self (source : α → Result Fragment) : Embeds true source source :=
  .inr ⟨[], [], fun a => by cases source a <;> simp [Except.map]⟩

theorem congr (hr : ∀ a, r' a = r a) (h : Embeds isWritten source r) : Embeds isWritten source r' := by
  rwa [funext hr]

theorem const (r : Result Fragment) : Embeds false source fun _ => r :=
  ⟨r, fun _ => rfl⟩

theorem error (e : DatabaseError) : Embeds isWritten source fun _ => .error e := by
  cases isWritten
  case true => exact .inl fun a f => nofun
  case false => exact .const (.error e)

theorem of_inserts {g : Fragment → Fragment} (h : Inserts g) : Embeds true .ok fun f => .ok (g f) := by
  obtain ⟨before, after, h⟩ := h
  exact .inr ⟨before, after, fun f => congrArg Except.ok (h f)⟩

theorem ite {c : Prop} {_ : Decidable c} (h : Embeds isWritten source r) (h' : Embeds isWritten source r') :
    Embeds isWritten source fun a => if c then r a else r' a := by
  split_ifs
  case pos => exact h
  case neg => exact h'

-- A part of the statement that is written before the source.
theorem after {c : Result β} {r : β → α → Result Fragment} (h : ∀ b, Embeds isWritten source (r b)) :
    Embeds isWritten source fun a => c >>= fun b => r b a := by
  cases c
  case ok b => exact h b
  case error e => exact .error e

theorem bind (h : Embeds isWritten source r) (hk : Embeds true .ok k) :
    Embeds isWritten source fun a => r a >>= k := by
  cases isWritten
  case false =>
    obtain ⟨f, h⟩ := h
    exact ⟨f >>= k, fun a => congrArg (· >>= k) (h a)⟩
  case true =>
    rcases h with h | ⟨before, after, h⟩
    case inl =>
      refine .inl fun a f hf => ?_
      obtain ⟨g, hg, -⟩ := Result.bind_eq_ok.mp hf
      exact h a g hg
    case inr =>
      rcases hk with hk | ⟨before', after', hk⟩
      case inl =>
        refine .inl fun a f hf => ?_
        obtain ⟨g, -, hg⟩ := Result.bind_eq_ok.mp hf
        exact hk g f hg
      case inr =>
        refine .inr ⟨before' ++ before, after ++ after', fun a => ?_⟩
        dsimp only
        rw [h]
        cases source a
        case error => rfl
        case ok f => exact (hk _).trans (congrArg Except.ok (by simp))

-- One of a list of items.
theorem item {k : List Fragment → Result Fragment} {before after : Result (List Fragment)}
    (h : Embeds isWritten source r) (hk : ∀ b a, Embeds true .ok fun f => k (b ++ f :: a)) :
    Embeds isWritten source fun s =>
      (do let b ← before; let f ← r s; let a ← after; return b ++ f :: a) >>= k := by
  simp only [bind_assoc, pure_bind]
  exact .after fun b => h.bind (.after fun a => hk b a)

end Embeds

section

variable {cx : Context} {g : Fragment → Fragment}

theorem inserts_withSuffix (h : Inserts g) : Inserts fun f => cx.withSuffix (g f) := by
  unfold Context.withSuffix
  split
  case h_1 => exact h.right _
  case h_2 => exact (h.left _).right _

theorem inserts_withStart (h : Inserts g) : Inserts fun f => cx.withStart (g f) := by
  unfold Context.withStart
  split
  case h_1 => exact h.left _
  case h_2 => exact (h.left _).right _

theorem inserts_call {kind : FunctionKind} (hkind : Function.rendersArguments kind = true) (distinct : Bool)
    (before after : List Fragment) : Inserts fun f => Function.call cx kind distinct (before ++ f :: after) := by
  have happlied (name : Fragment) : Inserts fun f => Function.call.applied distinct (before ++ f :: after) name :=
    ((Inserts.id.joined ", " before after).left _).right _
  unfold Function.call
  cases kind
  case currentTimestamp => nomatch hkind
  case concat =>
    dsimp only
    split
    case h_1 => exact (Inserts.id.joined " || " before after).parenthesised
    case h_2 => exact happlied _
  case count => simpa using happlied _
  all_goals exact happlied _

end

end PolySql
