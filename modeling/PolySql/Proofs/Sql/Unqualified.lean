import PolySql.Proofs.Sql.Params
import PolySql.Query.Render

namespace PolySql

-- Both computations fail with the same error, or what they give is related.
inductive Result.Alike {α β : Type} (p : α → β → Prop) : Result α → Result β → Prop
  | ok (h : p a b) : Alike p (.ok a) (.ok b)
  | error (e : DatabaseError) : Alike p (.error e) (.error e)

namespace Result.Alike

variable {α β γ δ : Type} {p : α → β → Prop} {q : γ → δ → Prop}

theorem refl {p : α → α → Prop} (hp : ∀ a, p a a) (r : Result α) : Alike p r r := by
  cases r
  case ok a => exact .ok (hp a)
  case error e => exact .error e

theorem self (r : Result α) : Alike Eq r r :=
  .refl Eq.refl r

theorem bind {r : Result α} {r' : Result β} {k : α → Result γ} {k' : β → Result δ} (h : Alike p r r')
    (hk : ∀ a b, p a b → Alike q (k a) (k' b)) : Alike q (r >>= k) (r' >>= k') := by
  cases h
  case ok h => exact hk _ _ h
  case error e => exact .error e

end Result.Alike

namespace Fragment

-- The second fragment is the first without the tables of so many columns.
inductive Unqualifies : Nat → Fragment → Fragment → Prop
  | nil : Unqualifies 0 [] []
  | keep (p : Piece) (h : Unqualifies n f f') : Unqualifies n (p :: f) (p :: f')
  | drop (owner column : String) (h : Unqualifies n f f') :
    Unqualifies (n + 1) (.name owner :: .words "." :: .name column :: f) (.name column :: f')

namespace Unqualifies

variable {n m : Nat} {f f' g g' : Fragment}

theorem refl (f : Fragment) : Unqualifies 0 f f := by
  induction f
  case nil => exact .nil
  case cons p f ih => exact .keep p ih

theorem append (hf : Unqualifies n f f') (hg : Unqualifies m g g') : Unqualifies (n + m) (f ++ g) (f' ++ g') := by
  induction hf
  case nil => rwa [Nat.zero_add]
  case keep p h ih => exact .keep p ih
  case drop owner column h ih =>
    rw [Nat.add_right_comm]
    exact .drop owner column ih

theorem left (hf : Unqualifies n f f') (g : Fragment) : Unqualifies n (g ++ f) (g ++ f') := by
  simpa using (refl g).append hf

theorem right (hf : Unqualifies n f f') (g : Fragment) : Unqualifies n (f ++ g) (f' ++ g) :=
  hf.append (refl g)

theorem parenthesised (hf : Unqualifies n f f') : Unqualifies n (parenthesised f) (Fragment.parenthesised f') :=
  (hf.left (words "(")).right (words ")")

theorem params_eq (h : Unqualifies n f f') : f'.params = f.params := by
  induction h
  case nil => rfl
  case keep p h ih => rw [params_cons, params_cons, ih]
  case drop owner column h ih => simpa [params_cons, Piece.param?] using ih

theorem eq_of_zero (h : Unqualifies 0 f f') : f' = f := by
  induction f generalizing f'
  case nil =>
    cases h
    rfl
  case cons p f ih =>
    cases h
    case keep h => rw [ih h]

-- The dot after the table's name is lost at least.
theorem length_text_le (h : Unqualifies n f f') (d : Dialect) (bound : Nat) :
    (f'.text d bound).length + n ≤ (f.text d bound).length := by
  induction h generalizing bound
  case nil => exact Nat.le_refl _
  case keep p h ih =>
    have hrest := ih (bound + p.param?.toList.length)
    simp only [text_cons, String.length_append]
    omega
  case drop owner column h ih =>
    have hrest := ih bound
    have hdot : ".".length = 1 := rfl
    simp only [text_cons, String.length_append, Piece.param?, Piece.text, Option.toList_none, List.length_nil,
      Nat.add_zero, hdot]
    omega

theorem text_eq_iff (h : Unqualifies n f f') (d : Dialect) (bound : Nat) :
    f'.text d bound = f.text d bound ↔ n = 0 := by
  constructor
  case mp =>
    intro htext
    have hle := h.length_text_le d bound
    rw [htext] at hle
    omega
  case mpr =>
    rintro rfl
    rw [h.eq_of_zero]

end Unqualifies

-- The same for the items of a list, with their columns counted together.
inductive UnqualifiesAll : Nat → List Fragment → List Fragment → Prop
  | nil : UnqualifiesAll 0 [] []
  | cons (h : Unqualifies n f f') (hs : UnqualifiesAll m fs fs') : UnqualifiesAll (n + m) (f :: fs) (f' :: fs')

namespace UnqualifiesAll

variable {n : Nat} {fs fs' : List Fragment}

theorem isEmpty_eq (h : UnqualifiesAll n fs fs') : fs'.isEmpty = fs.isEmpty := by
  cases h <;> rfl

theorem joined (h : UnqualifiesAll n fs fs') (separator : String) :
    Unqualifies n (joined separator fs) (Fragment.joined separator fs') := by
  induction h
  case nil => exact .nil
  case cons n f f' m fs fs' h hs ih =>
    cases hs
    case nil => exact h
    case cons => exact h.append (.keep _ ih)

theorem joined_unless_empty (h : UnqualifiesAll n fs fs') (w : String) :
    Unqualifies n (if fs.isEmpty then [] else words w ++ Fragment.joined ", " fs)
      (if fs.isEmpty then [] else words w ++ Fragment.joined ", " fs') := by
  cases h
  case nil => exact .nil
  case cons h hs => exact ((UnqualifiesAll.cons h hs).joined ", ").left _

end UnqualifiesAll

end Fragment

open Fragment

section

variable {cx : Context} {n m : Nat} {f f' : Fragment}

theorem unqualifies_columnName (h : cx.qualified = true) (owner column : String) :
    Unqualifies 1 (cx.columnName owner column) (cx.unqualified.columnName owner column) := by
  rw [Context.columnName, if_pos h]
  exact .drop owner column .nil

theorem unqualifies_withSuffix (h : Unqualifies n f f') :
    Unqualifies n (cx.withSuffix f) (cx.unqualified.withSuffix f') := by
  unfold Context.withSuffix Context.unqualified
  cases cx.dialect.concatStyle
  case operator => exact h.right _
  case function => exact (h.left _).right _

theorem unqualifies_withStart (h : Unqualifies n f f') :
    Unqualifies n (cx.withStart f) (cx.unqualified.withStart f') := by
  unfold Context.withStart Context.unqualified
  cases cx.dialect.concatStyle
  case operator => exact h.left _
  case function => exact (h.left _).right _

theorem unqualifies_call {kind : FunctionKind} {args args' : List Fragment}
    (hkind : Function.rendersArguments kind = true) (distinct : Bool) (h : UnqualifiesAll n args args') :
    Unqualifies n (Function.call cx kind distinct args) (Function.call cx.unqualified kind distinct args') := by
  have happlied (name : Fragment) :
      Unqualifies n (Function.call.applied distinct args name) (Function.call.applied distinct args' name) :=
    ((h.joined ", ").left _).right _
  unfold Function.call
  cases kind
  case currentTimestamp => nomatch hkind
  case concat =>
    dsimp only [Context.unqualified]
    split
    case h_1 => exact (h.joined " || ").parenthesised
    case h_2 => exact happlied _
  case count =>
    dsimp only [Context.unqualified]
    rw [h.isEmpty_eq]
    cases h
    case nil => exact .refl _
    case cons => exact happlied _
  all_goals exact happlied _

end

end PolySql
