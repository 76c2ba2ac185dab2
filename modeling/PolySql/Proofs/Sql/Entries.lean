import PolySql.Proofs.Sql.Structure

namespace PolySql.Lexeme

def word (w : String) : Lexeme :=
  token ⟨.word, w.toList⟩

-- Is it the word, in letters of any case?
def isWord (w : String) : Lexeme → Bool
  | token t => t.kind == .word && Dialect.upperWord t.chars == w
  | value _ => false

-- What follows the words.
def after? : List String → List Lexeme → Option (List Lexeme)
  | [], ls => some ls
  | _ :: _, [] => none
  | w :: ws, l :: r => if l.isWord w then after? ws r else none

-- How many parentheses are open after the lexeme.
def depth (n : Nat) (l : Lexeme) : Nat :=
  if l.isSymbol '(' then n + 1
  else if l.isSymbol ')' then n - 1
  else n

-- The entries of a list up to the parenthesis that closes it, and what follows that. Of the first entry some
-- lexemes have been seen, among them `n` open parentheses.
def entries (n : Nat) (seen : List Lexeme) : List Lexeme → Option (List (List Lexeme) × List Lexeme)
  | [] => none
  | l :: r =>
    if n = 0 ∧ l.isSymbol ')' then some ([seen], r)
    else if n = 0 ∧ l.isSymbol ',' then (entries 0 [] r).map (.map (seen :: ·) id)
    else entries (l.depth n) (seen ++ [l]) r

-- The lexemes are a part of one entry.
def IsEntry (a : List Lexeme) : Prop :=
  ∀ seen r, entries 0 seen (a ++ r) = entries 0 (seen ++ a) r

-- Are the lexemes one entry when they stand alone in a list?
def isEntry (a : List Lexeme) : Bool :=
  match entries 0 [] (a ++ [symbol ')']) with
  | some ([_], []) => true
  | _ => false

-- A lexeme that neither ends an entry nor opens a list.
def isInner (l : Lexeme) : Bool :=
  ['(', ')', ','].all (!l.isSymbol ·)

-- How often the words `PRIMARY KEY` occur.
def primaryKeys : List Lexeme → Nat
  | [] => 0
  | l :: r => (if r.head?.any (·.isWord "KEY") && l.isWord "PRIMARY" then 1 else 0) + primaryKeys r

variable {l : Lexeme} {n m : Nat} {a b r seen : List Lexeme} {es : List (List Lexeme)}

theorem nesting_cons (h : nesting n (l :: a) = some m) :
    nesting (l.depth n) a = some m ∧ l.depth (n + 1) = l.depth n + 1 := by
  simp only [nesting] at h
  rw [depth, depth]
  split_ifs at h ⊢
  · exact ⟨h, rfl⟩
  · cases n
    case zero => cases h
    case succ n => exact ⟨h, rfl⟩
  · exact ⟨h, rfl⟩

-- Within parentheses a comma ends no entry.
theorem entries_append (h : nesting n a = some m) : entries (n + 1) seen (a ++ r) = entries (m + 1) (seen ++ a) r := by
  induction a generalizing n seen
  case nil =>
    cases h
    simp
  case cons l a ih =>
    obtain ⟨h, hdepth⟩ := nesting_cons h
    have hrest : entries (l.depth n + 1) (seen ++ [l]) (a ++ r) = entries (m + 1) (seen ++ [l] ++ a) r := ih h
    simpa [entries, hdepth] using hrest

theorem entries_ne_nil (h : entries n seen a = some (es, r)) : es ≠ [] := by
  induction a generalizing n seen es
  case nil => nomatch h
  case cons l a ih =>
    rw [entries] at h
    split_ifs at h
    · cases h
      nofun
    · obtain ⟨⟨fs, s⟩, -, hes⟩ := Option.map_eq_some_iff.mp h
      cases hes
      nofun
    · exact ih h

-- Where a list of one entry ends, the same lexemes are a part of an entry before any others.
theorem entries_of_closing {before : List Lexeme} (h : entries n before (a ++ [symbol ')']) = some ([b], []))
    (seen r : List Lexeme) : entries n seen (a ++ r) = entries 0 (seen ++ a) r := by
  induction a generalizing n before seen
  case nil =>
    cases n
    case zero => simp
    case succ n => simp [entries] at h
  case cons l a ih =>
    rw [List.cons_append, entries] at h ⊢
    split_ifs at h ⊢
    · simp at h
    · obtain ⟨⟨fs, s⟩, hfs, heq⟩ := Option.map_eq_some_iff.mp h
      simp only [Prod.map, id, Prod.mk.injEq, List.cons.injEq] at heq
      exact absurd heq.1.2 (entries_ne_nil hfs)
    · simpa using ih h (seen ++ [l])

namespace IsEntry

theorem of_isEntry (h : isEntry a = true) : IsEntry a := by
  intro seen r
  rw [isEntry] at h
  split at h
  case h_1 b hb => exact entries_of_closing hb seen r
  case h_2 => nomatch h

theorem nil : IsEntry [] := by
  simp [IsEntry]

theorem append (ha : IsEntry a) (hb : IsEntry b) : IsEntry (a ++ b) := by
  intro seen r
  rw [List.append_assoc, ha, hb, List.append_assoc]

theorem cons (hl : l.isInner = true) (ha : IsEntry a) : IsEntry (l :: a) := by
  intro seen r
  simp only [isInner, List.all_cons, List.all_nil, Bool.and_true, Bool.and_eq_true, Bool.not_eq_true'] at hl
  simp [entries, depth, hl, ha (seen ++ [l]) r]

theorem grouped (h : nesting 0 a = some 0) : IsEntry (grouped a) := by
  intro seen r
  have hopening : (symbol '(').isSymbol ')' = false ∧ (symbol '(').isSymbol ',' = false ∧ (symbol '(').depth 0 = 1 := by
    decide
  have hclosing : ¬(symbol ')').isSymbol ',' = true ∧ (symbol ')').depth 1 = 0 := by
    decide
  have hinside : entries 1 (seen ++ [symbol '(']) (a ++ symbol ')' :: r) =
    entries 1 (seen ++ [symbol '('] ++ a) (symbol ')' :: r) := entries_append h
  rw [Lexeme.grouped]
  simp [entries, hopening, hclosing, hinside]

end IsEntry

-- The entries that stand one after the other, with commas between them.
theorem entries_separated (ha : IsEntry a) (hes : ∀ e ∈ es, IsEntry e) (r : List Lexeme) :
    entries 0 [] (a ++ (es.flatMap (symbol ',' :: ·) ++ symbol ')' :: r)) = some (a :: es, r) := by
  have hcomma : (symbol ',').isSymbol ')' = false ∧ (symbol ',').isSymbol ',' = true := by decide
  have hclosing : (symbol ')').isSymbol ')' = true := by decide
  rw [ha, List.nil_append]
  induction es generalizing a
  case nil => simp [entries, hclosing]
  case cons e es ih =>
    rw [List.forall_mem_cons] at hes
    have := ih hes.1 hes.2
    rw [← List.nil_append e, ← hes.1 []] at this
    simp [entries, hcomma, this]

theorem primaryKeys_append (h : ∀ l ∈ b.head?, l.isWord "KEY" = false) :
    primaryKeys (a ++ b) = primaryKeys a + primaryKeys b := by
  induction a
  case nil => simp [primaryKeys]
  case cons l a ih =>
    have hnext : (a ++ b).head?.any (·.isWord "KEY") = a.head?.any (·.isWord "KEY") := by
      cases a
      case cons => rfl
      case nil => simpa [Option.any_eq_false] using h
    rw [List.cons_append, primaryKeys, primaryKeys, hnext, ih, Nat.add_assoc]

end PolySql.Lexeme
