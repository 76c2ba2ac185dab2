import PolySql.Proofs.Sql.Conditions
import PolySql.Proofs.Sql.Entries
import PolySql.Proofs.Sql.Naming

namespace PolySql

open Fragment

-- The tables of a query as they are read, by their names in the catalog. A query stays as it is written.
inductive SourceTree
  | table (name : String) (aliasName : Option String)
  | query (ls : List Lexeme) (aliasName : String)
  | join (kind : JoinKind) (left right : SourceTree) (condition : Expr)

-- The words that begin a join.
def JoinKind.openings : List (List String × JoinKind) :=
  [(["JOIN"], inner), (["INNER", "JOIN"], inner), (["LEFT", "JOIN"], left), (["LEFT", "OUTER", "JOIN"], left)]

namespace Lexeme

-- A name as the catalog has it.
def name? (d : Dialect) : Lexeme → Option String
  | token t => do
    let (name, r) ← d.readName? Shape.isNameChar t.chars
    if r.isEmpty then return .ofList name else none
  | value _ => none

def isCount (l : Lexeme) : Bool :=
  l.role = .number ∨ l.role = .value

-- An alias, and what follows it. A word before a number is none: not all vendors reserve the word before
-- which an offset makes the tables end.
def aliased? (d : Dialect) (ls : List Lexeme) : Option (String × List Lexeme) :=
  match if ls.head?.any (·.isWord "AS") then ls.tail else ls with
  | [] => none
  | l :: r => if r.head?.any isCount then none else (l.name? d).map (·, r)

-- The kind of a join by the words that begin it, and what follows them.
def joinKind? (ls : List Lexeme) : Option (JoinKind × List Lexeme) :=
  JoinKind.openings.findSome? fun (ws, kind) => (after? ws ls).map (kind, ·)

end Lexeme

namespace SourceTree

open Lexeme

abbrev Reader :=
  List Lexeme → Option (SourceTree × List Lexeme)

-- A table or a query with its alias. Joined tables may stand in parentheses, though they need not.
def lead (d : Dialect) (p : Reader) : Reader
  | [] => none
  | l :: r =>
    if l.role = .opening then
      if r.head?.any (·.role = .select) then do
        let (ls, r) ← enclosed (l :: r)
        let (a, r) ← aliased? d r
        return (query ls a, r)
      else do
        let (e, r) ← p r
        if (← r.head?).role = .closing then return (e, r.tail) else none
    else do
      let name ← l.name? d
      match aliased? d r with
      | some (a, r) => return (table name (some a), r)
      | none => return (table name none, r)

-- Reads on after the tables on the left, if there are any, as long as joins follow. On the right of a join
-- stands as much as can be read before an `ON`.
def parse (d : Dialect) : Nat → Option SourceTree → Reader
  | 0, _, _ => none
  | fuel + 1, none, ts => do
    let (e, r) ← lead d (parse d fuel none) ts
    parse d fuel (some e) r
  | fuel + 1, some e, ts =>
    match joinKind? ts with
    | none => some (e, ts)
    | some (kind, r) => do
      let (right, r) ← parse d fuel none r
      if (← r.head?).isWord "ON" then
        let (condition, r) ← Expr.ofLexemes r.tail
        parse d fuel (some (join kind e right condition)) r
      else none

-- The tables at the beginning of the lexemes, and what follows them.
def ofLexemes (d : Dialect) (ts : List Lexeme) : Option (SourceTree × List Lexeme) :=
  parse d (ts.length + 1) none ts

-- The fuel is enough for every text.
structure Reads (d : Dialect) (left : Option SourceTree) (ts : List Lexeme) (e : SourceTree) (r : List Lexeme) :
    Prop where
  length_le : r.length ≤ ts.length
  parse_eq : ∀ fuel, ts.length < fuel → parse d fuel left ts = some (e, r)

-- A table and a condition end before the lexemes.
structure Ends (d : Dialect) (ls : List Lexeme) : Prop where
  halts : Lexeme.Halts 0 ls
  aliased?_eq : aliased? d ls = none
  isCount_eq : ls.head?.any isCount = false

-- No join follows either.
structure Finishes (d : Dialect) (ls : List Lexeme) : Prop extends Ends d ls where
  joinKind?_eq : joinKind? ls = none

variable {d : Dialect} {e e₁ e' : SourceTree} {l : Lexeme} {a b c ts r r' : List Lexeme}

namespace Ends

theorem nil (d : Dialect) : Ends d [] :=
  ⟨.nil, rfl, rfl⟩

theorem of_role (hl : l.role = .name) (ha : aliased? d (l :: r) = none) : Ends d (l :: r) where
  halts := .cons (by rw [hl]; rfl) (by simp [hl, Role.level?])
  aliased?_eq := ha
  isCount_eq := by simp [isCount, hl]

-- A word that is reserved.
theorem reserved (hl : l.role = .name) (hn : l.name? d = none) (hw : l.isWord "AS" = false) (r : List Lexeme) :
    Ends d (l :: r) :=
  of_role hl (by simp [aliased?, hw, hn])

-- A word before a number.
theorem counted {x : Lexeme} (hl : l.role = .name) (hw : l.isWord "AS" = false) (hx : x.isCount = true)
    (r : List Lexeme) : Ends d (l :: x :: r) :=
  of_role hl (by simp [aliased?, hw, hx])

end Ends

theorem Finishes.nil (d : Dialect) : Finishes d [] :=
  ⟨.nil d, rfl⟩

theorem Finishes.of_word (h : Ends d (l :: r)) (hw : ["JOIN", "INNER", "LEFT"].any l.isWord = false) :
    Finishes d (l :: r) := by
  simp only [List.any_cons, List.any_nil, Bool.or_eq_false_iff] at hw
  exact ⟨h, by simp [joinKind?, JoinKind.openings, after?, hw]⟩

namespace Reads

theorem stop (h : joinKind? r = none) (e : SourceTree) : Reads d (some e) r e r := by
  refine ⟨Nat.le_refl _, fun fuel hf => ?_⟩
  cases fuel
  case zero => simp at hf
  case succ => simp [parse, h]

theorem of_lead (hr : r.length < ts.length) (h : ∀ p, lead d p ts = some (e, r))
    (hnext : Reads d (some e) r e' r') : Reads d none ts e' r' := by
  refine ⟨Nat.le_trans hnext.length_le (Nat.le_of_lt hr), fun fuel hf => ?_⟩
  cases fuel
  case zero => simp at hf
  case succ fuel => simp [parse, h, hnext.parse_eq fuel (by omega)]

-- A join takes what can be read on its right, up to its own `ON`.
theorem of_join (hkind : joinKind? ts = some (kind, b)) (hb : b.length < ts.length)
    (hright : Reads d none b e₁ (l :: c)) (hl : l.isWord "ON" = true)
    (hcondition : Expr.ofLexemes c = some (p, r)) (hc : r.length ≤ c.length)
    (hnext : Reads d (some (join kind e e₁ p)) r e' r') : Reads d (some e) ts e' r' := by
  have hle := hright.length_le
  rw [List.length_cons] at hle
  have hnextLe := hnext.length_le
  refine ⟨by omega, fun fuel hf => ?_⟩
  cases fuel
  case zero => simp at hf
  case succ fuel =>
    simp [parse, hkind, hright.parse_eq fuel (by omega), hl, hcondition, hnext.parse_eq fuel (by omega)]

end Reads

-- The lexemes are the tables, whatever joins follow.
def Forms (d : Dialect) (a : List Lexeme) (e : SourceTree) : Prop :=
  ∀ r e' r', Ends d r → Reads d (some e) r e' r' → Reads d none (a ++ r) e' r'

namespace Forms

theorem ofLexemes_append (h : Forms d a e) (hr : Finishes d r) : ofLexemes d (a ++ r) = some (e, r) :=
  (h r e r hr.toEnds (.stop hr.joinKind?_eq e)).parse_eq _ (Nat.lt_succ_self _)

theorem of_lead (ha : a ≠ []) (h : ∀ r, Ends d r → ∀ p, lead d p (a ++ r) = some (e, r)) : Forms d a e := by
  intro r e' r' hr hnext
  refine .of_lead ?_ (h r hr) hnext
  simpa using List.length_pos_iff.mpr ha

theorem table (hl : l.role ≠ .opening) (hn : l.name? d = some s) : Forms d [l] (.table s none) :=
  of_lead (by simp) fun r hr p => by simp [lead, hl, hn, hr.aliased?_eq]

variable {s : String} (hb : ∀ r, r.head?.any isCount = false → aliased? d (b ++ r) = some (s, r))

include hb

theorem aliased (hl : l.role ≠ .opening) (hn : l.name? d = some t) : Forms d (l :: b) (.table t (some s)) :=
  of_lead (by simp) fun r hr p => by simp [lead, hl, hn, hb r hr.isCount_eq]

theorem query (ha : nesting 0 a = some 0) (hs : a.head?.any (·.role = .select) = true) :
    Forms d (grouped a ++ b) (.query (grouped a) s) := by
  refine of_lead (by simp [grouped]) fun r hr p => ?_
  have henclosed := enclosed_grouped ha (b ++ r)
  have halias := hb r hr.isCount_eq
  cases a
  case nil => cases hs
  case cons x a =>
    have hx : x.role = .select := by simpa using hs
    simp only [grouped, List.cons_append, List.append_assoc, List.nil_append] at henclosed ⊢
    simp [lead, hx, henclosed, halias]

omit hb

-- Each `ON` belongs to the join that is still open on its left, as a closing bracket would.
theorem join {ks : List Lexeme} {x : Lexeme} (ha : Forms d a e) (hk : ∀ r, Ends d (ks ++ r))
    (hkind : ∀ r, joinKind? (ks ++ r) = some (kind, r)) (hks : ks ≠ []) (hb : Forms d b e₁)
    (hx : ∀ r, Finishes d (x :: r)) (hon : x.isWord "ON" = true) (hc : Expr.Forms k c p) (hpos : 0 < k) :
    Forms d (a ++ ks ++ b ++ x :: c) (.join kind e e₁ p) := by
  intro r e' r' hr hnext
  simp only [List.append_assoc]
  refine ha _ e' r' (hk _) ?_
  have hright : Reads d none (b ++ x :: (c ++ r)) e₁ (x :: (c ++ r)) :=
    hb _ _ _ (hx _).toEnds (.stop (hx _).joinKind?_eq e₁)
  refine .of_join (hkind _) ?_ hright hon (hc.ofLexemes_append hpos hr.halts) (by simp) hnext
  simpa using List.length_pos_iff.mpr hks

end Forms

end SourceTree

end PolySql
