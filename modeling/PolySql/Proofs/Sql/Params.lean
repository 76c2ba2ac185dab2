import PolySql.Sql.Context

namespace PolySql

namespace Fragment

@[simp]
theorem params_words (w : String) : (words w).params = [] :=
  rfl

@[simp]
theorem params_name (w : String) : (name w).params = [] :=
  rfl

theorem params_cons (p : Piece) (f : Fragment) : params (p :: f) = p.param?.toList ++ f.params := by
  cases p <;> rfl

@[simp]
theorem params_append (f g : Fragment) : (f ++ g).params = f.params ++ g.params :=
  List.filterMap_append

@[simp]
theorem params_parenthesised (f : Fragment) : (parenthesised f).params = f.params := by
  rw [parenthesised]
  exact (params_append f _).trans (List.append_nil _)

-- What is looked for in a list stands in its items, not in the words between them.
theorem filterMap_joined {α : Type} {g : Piece → Option α} (hg : ∀ w, g (.words w) = none) (separator : String)
    (fs : List Fragment) : (joined separator fs).filterMap g = fs.flatMap (List.filterMap g) := by
  induction fs
  case nil => rfl
  case cons f fs ih =>
    cases fs
    case nil => simp [joined]
    case cons f' fs =>
      rw [joined, List.filterMap_append, List.filterMap_cons_none (hg separator), List.flatMap_cons, ih]
      nofun

@[simp]
theorem params_joined (separator : String) (fs : List Fragment) : (joined separator fs).params = fs.flatMap params :=
  filterMap_joined (fun _ => rfl) separator fs

theorem text_cons (d : Dialect) (n : Nat) (p : Piece) (f : Fragment) :
    text d n (p :: f) = p.text d n ++ f.text d (n + p.param?.toList.length) := by
  simp [text, texts]

theorem text_append (d : Dialect) (n : Nat) (f g : Fragment) :
    (f ++ g).text d n = f.text d n ++ g.text d (n + f.params.length) := by
  induction f generalizing n
  case nil => simp [text, texts, params]
  case cons p f ih =>
    rw [List.cons_append, text_cons, text_cons, ih, params_cons, List.length_append, String.append_assoc, Nat.add_assoc]

end Fragment

@[simp]
theorem Context.params_columnName (cx : Context) (owner column : String) :
    Fragment.params (cx.columnName owner column) = [] := by
  rw [columnName]
  split <;> rfl

end PolySql
