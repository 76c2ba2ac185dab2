import PolySql.Proofs.Sql.Seam
import PolySql.Query.Basic

namespace PolySql

-- What a lexeme is to a reader of conditions.
inductive Role
  | or
  | and
  | not
  | existsRow
  | select
  | is
  | null
  | inList
  | between
  | like (caseSensitive : Bool)
  | compare (op : Comparison)
  | concat
  | overWord
  | opening
  | closing
  | dot
  | cast
  | minus
  | star
  | withWord
  | text
  | number
  | value
  | name
  | other
  deriving DecidableEq

-- A condition as it is read. What stands in parentheses after a name, a query and a list stay as they
-- are written.
inductive Expr
  | operand (ls : List Lexeme)
  | windowed (e : Expr) (window : List Lexeme)
  | concat (a b : Expr)
  | compare (op : Comparison) (a b : Expr)
  | like (caseSensitive : Bool) (a b : Expr)
  | isNull (negated : Bool) (e : Expr)
  | inList (e : Expr) (items : List Lexeme)
  | between (e low high : Expr)
  | existsRow (query : List Lexeme)
  | not (e : Expr)
  | and (a b : Expr)
  | or (a b : Expr)

namespace Role

def words : List (String × Role) :=
  [("OR", or), ("AND", and), ("NOT", not), ("EXISTS", existsRow), ("SELECT", select), ("IS", is),
    ("NULL", null), ("IN", inList), ("BETWEEN", between), ("LIKE", like true), ("ILIKE", like false),
    ("OVER", overWord), ("WITH", withWord)]

def operators : List (String × Role) :=
  [("=", compare .eq), ("<>", compare .ne), ("<", compare .lt), ("<=", compare .le),
    (">", compare .gt), (">=", compare .ge), ("||", concat), ("::", cast), ("-", minus)]

def symbols : List (String × Role) :=
  [("(", opening), (")", closing), (".", dot), ("*", star)]

-- May an operand begin with such a word? The words that not all vendors reserve are names there.
def isNaming : Role → Bool
  | name | null | like false | overWord => true
  | _ => false

-- Does the lexeme belong to the operand before it?
def continues : Role → Bool
  | dot | opening | text | cast | withWord => true
  | _ => false

-- How tightly the operators bind. Between `AND` and the comparisons stands `NOT`.
def level? : Role → Option Nat
  | or => some 1
  | and => some 2
  | compare _ | like _ | is | inList | between => some 4
  | concat => some 5
  | overWord => some 6
  | _ => none

def binary? : Role → Option (Expr → Expr → Expr)
  | or => some .or
  | and => some .and
  | compare op => some (.compare op)
  | like caseSensitive => some (.like caseSensitive)
  | concat => some .concat
  | _ => none

theorem continues_of_level? {m : Role} (h : m.level? = some n) : m.continues = false := by
  cases m <;> simp [level?, continues] at h ⊢

def binds (m : Role) (level : Nat) : Bool :=
  m.level?.any (level ≤ ·)

end Role

def Token.role (t : Token) : Role :=
  match t.kind with
  | .word => (Role.words.lookup (Dialect.upperWord t.chars)).getD .name
  | .operator => (Role.operators.lookup (.ofList t.chars)).getD .other
  | .symbol => (Role.symbols.lookup (.ofList t.chars)).getD .other
  | .number => .number
  | .name => .name
  | .text => .text
  | .placeholder => .other

namespace Lexeme

def symbol (c : Char) : Lexeme :=
  .token ⟨.symbol, [c]⟩

def grouped (a : List Lexeme) : List Lexeme :=
  symbol '(' :: (a ++ [symbol ')'])

def role : Lexeme → Role
  | token t => t.role
  | value _ => .value

@[simp]
theorem role_opening : (symbol '(').role = .opening := by
  decide

@[simp]
theorem role_closing : (symbol ')').role = .closing := by
  decide

-- What is left of a stretch in parentheses of which `n + 1` are open.
def inside (n : Nat) : List Lexeme → Option (List Lexeme × List Lexeme)
  | [] => none
  | l :: r =>
    if l.isSymbol '(' then (inside (n + 1) r).map (.map (l :: ·) id)
    else if l.isSymbol ')' then
      match n with
      | 0 => some ([l], r)
      | n + 1 => (inside n r).map (.map (l :: ·) id)
    else (inside n r).map (.map (l :: ·) id)

-- A stretch in parentheses, and what follows it.
def enclosed : List Lexeme → Option (List Lexeme × List Lexeme)
  | [] => none
  | l :: r => if l.isSymbol '(' then (inside 0 r).map (.map (l :: ·) id) else none

-- The operand that begins with a word or a name.
def named (l : Lexeme) : List Lexeme → Option (List Lexeme × List Lexeme)
  | [] => some ([l], [])
  | x :: r =>
    match x.role with
    | .dot => r.head?.map fun y => ([l, x, y], r.tail)
    | .opening => (enclosed (x :: r)).map (.map (l :: ·) id)
    | .text => some ([l, x], r)
    | .withWord =>
      if (r.take 3).map role = [.name, .name, .text] then some (l :: x :: r.take 3, r.drop 3) else none
    | _ => some ([l], x :: r)

-- An operand without operators, and what follows it. A query and an empty list may stand in parentheses.
def operand : List Lexeme → Option (List Lexeme × List Lexeme)
  | [] => none
  | l :: r =>
    match l.role with
    | .number | .value | .star => some ([l], r)
    | .minus => r.head?.bind fun x =>
      if x.role = .number ∨ x.role.isNaming then some ([l, x], r.tail) else none
    | .text =>
      if r.head?.any (·.role = .cast) then some (l :: r.take 2, r.drop 2) else some ([l], r)
    | .opening => r.head?.bind fun x =>
      if x.role = .select ∨ x.role = .closing then enclosed (l :: r) else none
    | m => if m.isNaming then named l r else none

-- Nothing before the lexemes takes them in but operators up to the level.
def Halts (level : Nat) (ls : List Lexeme) : Prop :=
  ∀ l ∈ ls.head?, l.role.continues = false ∧ ∀ n ∈ l.role.level?, n ≤ level

end Lexeme

namespace Expr

open Lexeme

-- Reads an expression and says what follows it.
abbrev Reader :=
  List Lexeme → Option (Expr × List Lexeme)

-- The beginning of an expression.
def lead (p : Nat → Reader) (ts : List Lexeme) : Option (Expr × List Lexeme) :=
  match Lexeme.operand ts with
  | some (ls, r) => some (operand ls, r)
  | none =>
    match ts with
    | [] => none
    | l :: r =>
      match l.role with
      | .not => (p 4 r).map (.map not id)
      | .existsRow => (enclosed r).map (.map existsRow id)
      | .opening => do
        let (e, r) ← p 1 r
        if (← r.head?).role = .closing then return (e, r.tail) else none
      | _ => none

-- An expression goes on after an operator.
def continued (p : Nat → Reader) (e : Expr) (m : Role) (r : List Lexeme) : Option (Expr × List Lexeme) :=
  match m.binary?, m.level? with
  | some f, some level => (p (level + 1) r).map (.map (f e) id)
  | _, _ =>
    match m with
    | .overWord => (enclosed r).map (.map (windowed e) id)
    | .inList => (enclosed r).map (.map (inList e) id)
    | .is =>
      if (r.take 1).map role = [.null] then some (isNull false e, r.drop 1)
      else if (r.take 2).map role = [.not, .null] then some (isNull true e, r.drop 2)
      else none
    | .between => do
      let (low, r) ← p 5 r
      if (← r.head?).role = .and then (p 5 r.tail).map (.map (between e low) id) else none
    | _ => none

-- Reads on after the expression on the left, if there is one, as long as the operators bind at least as
-- tightly as the level says.
def parse : Nat → Nat → Option Expr → Reader
  | 0, _, _, _ => none
  | fuel + 1, level, none, ts => do
    let (e, r) ← lead (parse fuel · none) ts
    parse fuel level (some e) r
  | _ + 1, _, some e, [] => some (e, [])
  | fuel + 1, level, some e, l :: r =>
    if l.role.binds level then do
      let (e, r) ← continued (parse fuel · none) e l.role r
      parse fuel level (some e) r
    else some (e, l :: r)

-- The condition at the beginning of the lexemes, and what follows it.
def ofLexemes (ts : List Lexeme) : Option (Expr × List Lexeme) :=
  parse (ts.length + 1) 1 none ts

-- The fuel is enough for every text.
structure Reads (level : Nat) (left : Option Expr) (ts : List Lexeme) (e : Expr) (r : List Lexeme) : Prop where
  length_le : r.length ≤ ts.length
  parse_eq : ∀ fuel, ts.length < fuel → parse fuel level left ts = some (e, r)

end Expr

namespace Lexeme

variable {a r : List Lexeme} {k n m : Nat}

theorem inside_append (h : nesting n a = some m) : inside n (a ++ r) = (inside m r).map (.map (a ++ ·) id) := by
  rcases hr : inside m r with _ | ⟨b, s⟩
  all_goals
    induction a generalizing n
    case nil =>
      cases h
      simp [hr]
    case cons l a ih =>
      simp only [nesting] at h
      simp only [List.cons_append, inside]
      split_ifs at h ⊢
      · simp [ih h]
      · cases n
        case zero => simp at h
        case succ n => simp [ih h]
      · simp [ih h]

theorem enclosed_grouped (h : nesting 0 a = some 0) (r : List Lexeme) :
    enclosed (grouped a ++ r) = some (grouped a, r) := by
  have : inside 0 (a ++ symbol ')' :: r) = some (a ++ [symbol ')'], r) := inside_append h
  simp [grouped, enclosed, isSymbol, symbol] at this ⊢
  simp [this]

theorem Halts.nil : Halts k [] := by
  simp [Halts]

theorem Halts.cons {l : Lexeme} (hc : l.role.continues = false) (hl : ∀ n ∈ l.role.level?, n ≤ k) :
    Halts k (l :: r) := by
  simpa [Halts] using ⟨hc, hl⟩

theorem Halts.mono (h : Halts k r) (hk : k ≤ n) : Halts n r :=
  fun l hl => ⟨(h l hl).1, fun m hm => Nat.le_trans ((h l hl).2 m hm) hk⟩

theorem Halts.closing (k : Nat) (r : List Lexeme) : Halts k (symbol ')' :: r) :=
  .cons (by decide) nofun

end Lexeme

namespace Expr

open Lexeme

variable {level n k : Nat} {e e₁ e' : Expr} {l : Lexeme} {a b ts r r' : List Lexeme}

namespace Reads

theorem stop (h : Halts k r) (hk : k < level) (e : Expr) : Reads level (some e) r e r := by
  refine ⟨Nat.le_refl _, fun fuel hf => ?_⟩
  cases fuel
  case zero => simp at hf
  case succ fuel =>
    cases r
    case nil => rfl
    case cons l r =>
      have hb : l.role.binds level = false := by
        have := (h l rfl).2
        cases hl : l.role.level?
        case none => simp [Role.binds, hl]
        case some n =>
          have := this n hl
          simp [Role.binds, hl]
          omega
      simp [parse, hb]

-- One step of reading each way; what it reads itself is found with less fuel.

theorem of_lead (hr : r.length < ts.length)
    (h : ∀ fuel, ts.length ≤ fuel → lead (parse fuel · none) ts = some (e, r))
    (hnext : Reads level (some e) r e' r') : Reads level none ts e' r' := by
  refine ⟨Nat.le_trans hnext.length_le (Nat.le_of_lt hr), fun fuel hf => ?_⟩
  cases fuel
  case zero => simp at hf
  case succ fuel => simp [parse, h fuel (by omega), hnext.parse_eq fuel (by omega)]

theorem of_continued (hl : l.role.level? = some n) (hn : level ≤ n) (hr : r.length ≤ ts.length)
    (h : ∀ fuel, ts.length < fuel → continued (parse fuel · none) e l.role ts = some (e₁, r))
    (hnext : Reads level (some e₁) r e' r') : Reads level (some e) (l :: ts) e' r' := by
  refine ⟨Nat.le_trans hnext.length_le (Nat.le_succ_of_le hr), fun fuel hf => ?_⟩
  cases fuel
  case zero => simp at hf
  case succ fuel =>
    rw [List.length_cons] at hf
    have hb : l.role.binds level = true := by simp [Role.binds, hl, hn]
    simp [parse, hb, h fuel (by omega), hnext.parse_eq fuel (by omega)]

-- What is read begins with neither of the two lexemes before which a parenthesis is an operand's own.
theorem operand_opening (h : Reads level none ts e r) : Lexeme.operand (symbol '(' :: ts) = none := by
  have hp := h.parse_eq _ (Nat.lt_succ_self _)
  clear h
  cases ts
  case nil => simp [Lexeme.operand]
  case cons l ts =>
    have hl : ¬(l.role = .select ∨ l.role = .closing) := by
      rintro (hl | hl)
      all_goals simp [parse, lead, Lexeme.operand, hl, Role.isNaming] at hp
    simp [Lexeme.operand, hl]

theorem ofLexemes_eq (h : Reads 1 none ts e r) : ofLexemes ts = some (e, r) :=
  h.parse_eq _ (Nat.lt_succ_self _)

end Reads

-- The lexemes are the expression, whose main operator binds as tightly as the level says or more so.
def Forms (k : Nat) (a : List Lexeme) (e : Expr) : Prop :=
  ∀ level ≤ k, ∀ r e' r', Halts k r → Reads level (some e) r e' r' → Reads level none (a ++ r) e' r'

namespace Forms

theorem mono (h : Forms k a e) (hn : n ≤ k) : Forms n a e :=
  fun level hl r e' r' hr => h level (Nat.le_trans hl hn) r e' r' (hr.mono hn)

-- Where something looser follows, the expression ends.
theorem reads (h : Forms k a e) (hl : level ≤ k) (hn : n < level) (hr : Halts n r) :
    Reads level none (a ++ r) e r :=
  h level hl r e r (hr.mono (by omega)) (.stop hr hn e)

theorem ofLexemes_append (h : Forms k a e) (hk : 0 < k) (hr : Halts 0 r) : ofLexemes (a ++ r) = some (e, r) :=
  (h.reads hk Nat.zero_lt_one hr).ofLexemes_eq

theorem operand (h : ∀ r, Halts k r → Lexeme.operand (a ++ r) = some (a, r)) (ha : a ≠ []) :
    Forms k a (.operand a) := by
  intro level _ r e' r' hr hnext
  refine .of_lead ?_ (fun fuel _ => ?_) hnext
  · simpa using List.length_pos_iff.mpr ha
  · simp [lead, h r hr]

theorem not (h : Forms 4 a e) (hl : l.role = .not) : Forms 3 (l :: a) (.not e) := by
  intro level _ r e' r' hr hnext
  have ha := h.reads (Nat.le_refl 4) (by omega) hr
  refine .of_lead (by simp only [List.length_append, List.length_cons]; omega) (fun fuel hf => ?_) hnext
  have := ha.parse_eq fuel (by simp at hf ⊢; omega)
  simp [lead, Lexeme.operand, hl, Role.isNaming, this]

theorem existsRow (h : nesting 0 a = some 0) (hl : l.role = .existsRow) :
    Forms k (l :: grouped a) (.existsRow (grouped a)) := by
  intro level _ r e' r' _ hnext
  refine .of_lead (by simp only [List.length_append, List.length_cons]; omega) (fun fuel _ => ?_) hnext
  simp [lead, Lexeme.operand, hl, Role.isNaming, enclosed_grouped h]

theorem grouped (h : Forms k a e) (hk : 0 < k) : Forms n (grouped a) e := by
  intro level _ r e' r' _ hnext
  have ha := h.reads hk Nat.zero_lt_one (.closing 0 r)
  have heq : Lexeme.grouped a ++ r = symbol '(' :: (a ++ symbol ')' :: r) := by
    simp [Lexeme.grouped]
  rw [heq]
  refine .of_lead (by simp only [List.length_append, List.length_cons]; omega) (fun fuel hf => ?_) hnext
  have := ha.parse_eq fuel (by simp at hf ⊢; omega)
  simp [lead, ha.operand_opening, this]

-- An expression goes on after an operator that binds no tighter than it does.
theorem of_continued (h : Forms k a e) (hl : l.role.level? = some n) (hn : n ≤ k)
    (hc : ∀ r, Halts n r → ∀ fuel, (b ++ r).length < fuel →
      continued (parse fuel · none) e l.role (b ++ r) = some (e₁, r)) : Forms n (a ++ l :: b) e₁ := by
  intro level hlevel r e' r' hr hnext
  rw [List.append_assoc]
  refine h level (Nat.le_trans hlevel hn) _ _ _ (.cons (Role.continues_of_level? hl) (by simp [hl, hn])) ?_
  exact .of_continued hl hlevel (by simp) (hc r hr) hnext

theorem binary (ha : Forms k a e) (hb : Forms (n + 1) b e₁) (hl : l.role.level? = some n)
    (hf : l.role.binary? = some f) (hn : n ≤ k) : Forms n (a ++ l :: b) (f e e₁) := by
  refine ha.of_continued hl hn fun r hr fuel hfuel => ?_
  have := (hb.reads (Nat.le_refl _) (Nat.lt_succ_self n) hr).parse_eq fuel hfuel
  simp [continued, hf, hl, this]

theorem windowed (h : Forms 6 a e) (hl : l.role = .overWord) (hb : nesting 0 b = some 0) :
    Forms 6 (a ++ l :: Lexeme.grouped b) (.windowed e (Lexeme.grouped b)) := by
  refine h.of_continued (by simp [hl, Role.level?]) (Nat.le_refl 6) fun r _ fuel _ => ?_
  simp [continued, hl, Role.binary?, enclosed_grouped hb]

theorem inList (h : Forms 4 a e) (hl : l.role = .inList) (hb : nesting 0 b = some 0) :
    Forms 4 (a ++ l :: Lexeme.grouped b) (.inList e (Lexeme.grouped b)) := by
  refine h.of_continued (by simp [hl, Role.level?]) (Nat.le_refl 4) fun r _ fuel _ => ?_
  simp [continued, hl, Role.binary?, enclosed_grouped hb]

theorem isNull (h : Forms 4 a e) (hl : l.role = .is) (hb : b.map role = (if negated then [.not] else []) ++ [.null]) :
    Forms 4 (a ++ l :: b) (.isNull negated e) := by
  refine h.of_continued (by simp [hl, Role.level?]) (Nat.le_refl 4) fun r _ fuel _ => ?_
  cases negated
  case false =>
    obtain ⟨x, rfl, hx⟩ := List.map_eq_singleton_iff.mp hb
    simp [continued, hl, Role.binary?, hx]
  case true =>
    obtain ⟨x, t, rfl, hx, ht⟩ := List.map_eq_cons_iff.mp hb
    obtain ⟨y, rfl, hy⟩ := List.map_eq_singleton_iff.mp ht
    simp [continued, hl, Role.binary?, hx, hy]

theorem between {x : Lexeme} (h : Forms 4 a e) (hl : l.role = .between) (hb : Forms 5 b e₁) (hx : x.role = .and)
    (hc : Forms 5 c e₂) : Forms 4 (a ++ l :: (b ++ x :: c)) (.between e e₁ e₂) := by
  refine h.of_continued (by simp [hl, Role.level?]) (Nat.le_refl 4) fun r hr fuel hfuel => ?_
  have hand : Halts 4 (x :: (c ++ r)) := .cons (by simp [hx, Role.continues]) (by simp [hx, Role.level?])
  have hlow := (hb.reads (Nat.le_refl 5) (Nat.lt_succ_self 4) hand).parse_eq fuel (by simpa using hfuel)
  have hhigh := (hc.reads (Nat.le_refl 5) (Nat.lt_succ_self 4) hr).parse_eq fuel (by simp at hfuel ⊢; omega)
  simp [continued, hl, Role.binary?, hlow, hx, hhigh]

end Forms

end Expr

-- Do the words begin with one that is no operator and no part of an operand?
def Lexis.closesCondition (l : Lexis) (w : String) : Bool :=
  (l.words w).head?.any (·.role = .name)

namespace Fragment

-- A part of a statement that is left out or begins so that a condition before it ends.
def Closes (d : Dialect) (f : Fragment) : Prop :=
  ∀ r, Lexeme.Halts 0 r → Lexeme.Halts 0 (f.lexemes d ++ r)

namespace Closes

variable {d : Dialect} {f g : Fragment} {w : String}

theorem nil (d : Dialect) : Closes d [] :=
  fun _ h => h

theorem append (hf : Closes d f) (hg : Closes d g) : Closes d (f ++ g) := by
  intro r hr
  rw [lexemes_append, List.append_assoc]
  exact hf _ (hg r hr)

theorem words (h : d.lexis.closesCondition w = true) (f : Fragment) : Closes d (words w ++ f) := by
  intro r _
  rw [lexemes_append, lexemes_words]
  cases ht : d.lexis.words w
  case nil => simp [Lexis.closesCondition, ht] at h
  case cons t ts =>
    have hm : (Lexeme.token t).role = .name := by simpa [Lexis.closesCondition, ht, Lexeme.role] using h
    exact .cons (by simp [hm, Role.continues]) (by simp [hm, Role.level?])

end Closes

end Fragment

end PolySql
