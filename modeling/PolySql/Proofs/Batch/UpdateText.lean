import Mathlib.Algebra.Ring.Nat
import PolySql.Proofs.Batch.Rows

namespace PolySql

open Fragment

namespace Fragment

variable {d : Dialect} {f g : Fragment} {n : Nat}

-- The length of what is written for all pieces but the parameters.
def fixed (d : Dialect) : Fragment → Nat
  | [] => 0
  | .param _ :: f => fixed d f
  | p :: f => (p.text d 0).length + fixed d f

-- The length of the given number of placeholders, counted on from `n`.
def marks (d : Dialect) (n : Nat) : Nat → Nat
  | 0 => 0
  | k + 1 => (d.placeholder.text (n + 1)).length + marks d (n + 1) k

theorem marks_le {k m : Nat} (h : k ≤ m) (n : Nat) : marks d n k ≤ marks d n m := by
  induction m generalizing k n
  case zero =>
    obtain rfl := Nat.le_zero.mp h
    exact Nat.le_refl _
  case succ m ih =>
    cases k
    case zero => exact Nat.zero_le _
    case succ k => exact Nat.add_le_add_left (ih (Nat.le_of_succ_le_succ h) (n + 1)) _

theorem length_text (f : Fragment) (n : Nat) : (f.text d n).length = fixed d f + marks d n f.params.length := by
  induction f generalizing n
  case nil => rfl
  case cons p f ih =>
    rw [text, texts, String.join_cons, String.length_append, ← text, ih]
    cases p <;> simp [fixed, params_cons, Piece.param?, Piece.text, marks, Nat.add_assoc, Nat.add_left_comm]

theorem fixed_append (d : Dialect) (f g : Fragment) : fixed d (f ++ g) = fixed d f + fixed d g := by
  induction f
  case nil => simp [fixed]
  case cons p f ih => cases p <;> simp [fixed, ih, Nat.add_assoc]

-- The fragment without the values of its parameters.
def unbound (f : Fragment) : Fragment :=
  f.map fun
    | .param _ => .param .null
    | p => p

theorem text_unbound (f : Fragment) (n : Nat) : f.unbound.text d n = f.text d n := by
  have htexts : f.unbound.texts d n = f.texts d n := by
    induction f generalizing n
    case nil => rfl
    case cons p f ih =>
      rw [unbound, List.map_cons, ← unbound, texts, texts, ih]
      cases p <;> rfl
  rw [text, htexts, text]

@[simp]
theorem unbound_append (f g : Fragment) : (f ++ g).unbound = f.unbound ++ g.unbound :=
  List.map_append

-- Conditions that all have to hold, the first two in the innermost parentheses.
def conjoined : List Fragment → Fragment
  | [] => []
  | f :: r => r.foldl (fun f g => parenthesised (binary f "AND" g)) f

theorem fixed_conjoined (d : Dialect) (f : Fragment) (fs : List Fragment) :
    fixed d (conjoined (f :: fs)) = fixed d f + (fs.map fun g => fixed d g + 7).sum := by
  have hwords : (" " ++ "AND" ++ " ").length = 5 := rfl
  have hopen : "(".length = 1 := rfl
  have hclose : ")".length = 1 := rfl
  rw [conjoined]
  induction fs generalizing f
  case nil => simp
  case cons g fs ih =>
    have hpair : fixed d (parenthesised (binary f "AND" g)) = fixed d f + (fixed d g + 7) := by
      rw [parenthesised, binary]
      simp only [List.cons_append, fixed, fixed_append, Piece.text, words, hwords, hopen, hclose]
      omega
    rw [List.foldl_cons, ih, hpair, List.map_cons, List.sum_cons, Nat.add_assoc]

theorem params_conjoined (fs : List Fragment) : (conjoined fs).params = fs.flatMap params := by
  have hpair (f g : Fragment) : (parenthesised (binary f "AND" g)).params = f.params ++ g.params := by
    simp [binary]
  cases fs
  case nil => rfl
  case cons f fs =>
    rw [conjoined, List.flatMap_cons]
    induction fs generalizing f
    case nil => simp
    case cons g fs ih => rw [List.foldl_cons, ih, hpair, List.flatMap_cons, List.append_assoc]

@[simp]
theorem unbound_parenthesised (f : Fragment) : (parenthesised f).unbound = parenthesised f.unbound := by
  simp [parenthesised, unbound]

@[simp]
theorem unbound_conjoined (fs : List Fragment) : (conjoined fs).unbound = conjoined (fs.map unbound) := by
  have hpair (f g : Fragment) :
      (parenthesised (binary f "AND" g)).unbound = parenthesised (binary f.unbound "AND" g.unbound) := by
    simp [binary]
    rfl
  cases fs
  case nil => rfl
  case cons f fs =>
    rw [List.map_cons, conjoined, conjoined]
    induction fs generalizing f
    case nil => rfl
    case cons g fs ih => rw [List.foldl_cons, List.map_cons, List.foldl_cons, ih, hpair]

@[simp]
theorem unbound_joined (separator : String) (fs : List Fragment) :
    (joined separator fs).unbound = joined separator (fs.map unbound) := by
  induction fs
  case nil => rfl
  case cons f fs ih =>
    cases fs
    case nil => simp [joined]
    case cons g fs =>
      have hjoined (f g : Fragment) (fs : List Fragment) :
          joined separator (f :: g :: fs) = f ++ words separator ++ joined separator (g :: fs) := by
        simp [joined, words]
      rw [List.map_cons, List.map_cons, hjoined, hjoined, unbound_append, unbound_append, ih]
      rfl

end Fragment

-- A column that is set to a stored value.
def assignment (cx : Context) (e : ColumnId × Value) : Fragment :=
  name (cx.catalog.columnName e.1) ++ words " = " ++ [.param e.2]

-- A key column that is compared with a stored value.
def keyTest (cx : Context) (e : ColumnId × Value) : Fragment :=
  binary (cx.columnName (cx.catalog.tableName e.1.table) (cx.catalog.columnName e.1)) "=" [.param e.2]

-- The update of one row by stored values.
def updating (cx : Context) (table : TableId) (sets keys : List (ColumnId × Value)) : Fragment :=
  words "UPDATE " ++ name (cx.catalog.tableName table) ++ words " SET " ++
    joined ", " (sets.map (assignment cx)) ++ words " WHERE " ++ conjoined (keys.map (keyTest cx))

-- The columns of some entries, without their values.
def unboundEntries (ids : List ColumnId) : List (ColumnId × Value) :=
  ids.map (·, .null)

theorem params_assignment (cx : Context) (e : ColumnId × Value) : (assignment cx e).params = [e.2] :=
  rfl

theorem params_keyTest (cx : Context) (e : ColumnId × Value) : (keyTest cx e).params = [e.2] := by
  rw [keyTest, binary, Context.columnName]
  split <;> rfl

theorem params_updating (cx : Context) (table : TableId) (sets keys : List (ColumnId × Value)) :
    (updating cx table sets keys).params = sets.map (·.2) ++ keys.map (·.2) := by
  simp [updating, params_conjoined, List.flatMap_map, params_assignment, params_keyTest]
  rw [List.map_eq_flatMap, List.map_eq_flatMap]

theorem unbound_updating (cx : Context) (table : TableId) (sets keys : List (ColumnId × Value)) :
    (updating cx table sets keys).unbound =
      updating cx table (unboundEntries (sets.map (·.1))) (unboundEntries (keys.map (·.1))) := by
  have hset (e : ColumnId × Value) : (assignment cx e).unbound = assignment cx (e.1, .null) := rfl
  have hkey (e : ColumnId × Value) : (keyTest cx e).unbound = keyTest cx (e.1, .null) := by
    rw [keyTest, keyTest, binary, Context.columnName]
    split <;> rfl
  simp [updating, unboundEntries, Function.comp_def, hset, hkey]
  rfl

-- The text is that of the columns.
theorem text_updating (cx : Context) (table : TableId) (sets keys : List (ColumnId × Value)) :
    (updating cx table sets keys).text d 0 =
      (updating cx table (unboundEntries (sets.map (·.1))) (unboundEntries (keys.map (·.1)))).text d 0 := by
  rw [← text_unbound, unbound_updating]

-- More key columns make a longer text.
theorem length_text_updating_lt {k : ColumnId} {s l : List ColumnId} (cx : Context) (table : TableId)
    (sets : List (ColumnId × Value)) (h : s <:+ l) (hlt : s.length < l.length) :
    ((updating cx table sets (unboundEntries (k :: s))).text d 0).length <
      ((updating cx table sets (unboundEntries (k :: l))).text d 0).length := by
  obtain ⟨t, rfl⟩ := h
  let test (id : ColumnId) := keyTest cx (id, .null)
  have htests (ids : List ColumnId) : (unboundEntries ids).map (keyTest cx) = ids.map test := by
    simp [unboundEntries, test]
  have hfixed : fixed d (conjoined ((k :: s).map test)) < fixed d (conjoined ((k :: (t ++ s)).map test)) := by
    simp only [List.map_cons, fixed_conjoined, List.map_map, List.map_append, List.sum_append]
    cases t
    case nil => simp at hlt
    case cons id t =>
      rw [List.map_cons, List.sum_cons, Function.comp_apply]
      omega
  have hmarks : marks d 0 (updating cx table sets (unboundEntries (k :: s))).params.length ≤
      marks d 0 (updating cx table sets (unboundEntries (k :: (t ++ s)))).params.length := by
    refine marks_le ?_ 0
    simp [params_updating, unboundEntries]
  rw [length_text, length_text]
  refine Nat.add_lt_add_of_lt_of_le ?_ hmarks
  simp only [updating, fixed_append, htests]
  exact Nat.add_lt_add_left hfixed _

-- Of key columns that are the end of one list, as many make one text.
theorem text_updating_eq_iff {k : ColumnId} {c s l : List ColumnId} {sets sets' keys keys' : List (ColumnId × Value)}
    (cx : Context) (table : TableId) (hsets : sets.map (·.1) = sets'.map (·.1)) (hs : s <:+ c) (hl : l <:+ c)
    (hkeys : keys.map (·.1) = k :: s) (hkeys' : keys'.map (·.1) = k :: l) :
    (updating cx table sets keys).text d 0 = (updating cx table sets' keys').text d 0 ↔ keys.length = keys'.length := by
  have hlength : keys.length = s.length + 1 ∧ keys'.length = l.length + 1 := by
    have hs := congrArg List.length hkeys
    have hl := congrArg List.length hkeys'
    simp only [List.length_map, List.length_cons] at hs hl
    exact ⟨hs, hl⟩
  rw [text_updating cx table sets keys, text_updating cx table sets' keys', hsets, hkeys, hkeys', hlength.1, hlength.2,
    Nat.add_right_cancel_iff]
  constructor
  case mp =>
    intro htext
    have htext := congrArg String.length htext
    rcases Nat.lt_trichotomy s.length l.length with h | h | h
    case inl =>
      have hsuffix := List.suffix_of_suffix_length_le hs hl (Nat.le_of_lt h)
      exact absurd htext (Nat.ne_of_lt (length_text_updating_lt cx table _ hsuffix h))
    case inr.inl => exact h
    case inr.inr =>
      have hsuffix := List.suffix_of_suffix_length_le hl hs (Nat.le_of_lt h)
      exact absurd htext (Nat.ne_of_gt (length_text_updating_lt cx table _ hsuffix h))
  case mpr =>
    intro h
    have hsuffix := List.suffix_of_suffix_length_le hs hl (Nat.le_of_eq h)
    rw [hsuffix.eq_of_length h]

end PolySql
