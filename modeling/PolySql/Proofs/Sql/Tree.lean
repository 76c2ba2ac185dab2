import PolySql.Proofs.Sql.Grammar
import PolySql.Proofs.Sql.Rendering

namespace PolySql

theorem Keywords.mem_common_of_leading (h : w ∈ leading) : w ∈ common := by
  have : ∀ w ∈ leading, w ∈ common := by decide
  exact this w h

theorem Token.isNaming_role_of_word (h : Dialect.upperWord w ∉ Keywords.leading) :
    (Token.role ⟨.word, w⟩).isNaming = true := by
  have hwords : ∀ p ∈ Role.words, p.2.isNaming = true ∨ p.1 ∈ Keywords.leading := by decide
  rw [role]
  cases hl : Role.words.lookup (Dialect.upperWord w)
  case none => rfl
  case some m =>
    obtain ⟨a, b, heq, -⟩ := List.lookup_eq_some_iff.mp hl
    have := hwords (Dialect.upperWord w, m) (by simp [heq])
    tauto

theorem Token.IsName.isNaming_role {t : Token} (h : t.IsName) : t.role.isNaming = true := by
  rcases t with ⟨kind, w⟩
  rcases h with h | ⟨h, hw⟩
  case inl =>
    cases h
    rfl
  case inr =>
    cases h
    exact isNaming_role_of_word fun h => hw (Keywords.mem_common_of_leading h)

namespace Lexeme

variable {l : Lexeme} {a r : List Lexeme} {k : Nat}

theorem operand_of_isNaming (h : l.role.isNaming = true) : operand (l :: r) = named l r := by
  cases hm : l.role <;> rw [hm] at h
  case like caseSensitive => cases caseSensitive <;> simp [operand, hm, Role.isNaming] at h ⊢
  all_goals simp [operand, hm, Role.isNaming] at h ⊢

theorem named_of_halts (h : Halts k r) : named l r = some ([l], r) := by
  cases r
  case nil => rfl
  case cons x r =>
    have hx := (h x rfl).1
    cases hm : x.role <;> simp [hm, Role.continues] at hx
    all_goals simp [named, hm]

end Lexeme

namespace Expr.Forms

open Lexeme

variable {k : Nat} {a : List Lexeme} {l : Lexeme}

theorem word (hl : l.role.isNaming = true) : Forms k [l] (.operand [l]) :=
  .operand (fun _ hr => by simpa [operand_of_isNaming hl] using named_of_halts hr) nofun

theorem qualified {x y : Lexeme} (hl : l.role.isNaming = true) (hx : x.role = .dot) :
    Forms k [l, x, y] (.operand [l, x, y]) :=
  .operand (fun _ _ => by simp [operand_of_isNaming hl, named, hx]) nofun

theorem call (hl : l.role.isNaming = true) (ha : nesting 0 a = some 0) :
    Forms k (l :: Lexeme.grouped a) (.operand (l :: Lexeme.grouped a)) := by
  refine .operand (fun r _ => ?_) nofun
  have := enclosed_grouped ha r
  simp [operand_of_isNaming hl, named, Lexeme.grouped] at this ⊢
  simp [this]

-- A query in parentheses, or nothing.
theorem query (ha : nesting 0 a = some 0) (hm : ∀ l ∈ a.head?, l.role = .select) :
    Forms k (Lexeme.grouped a) (.operand (Lexeme.grouped a)) := by
  refine .operand (fun r _ => ?_) nofun
  have := enclosed_grouped ha r
  simp [Lexeme.operand, Lexeme.grouped] at this ⊢
  cases a <;> simp_all

theorem single (hl : l.role = .number ∨ l.role = .value ∨ l.role = .star) : Forms k [l] (.operand [l]) :=
  .operand (fun _ _ => by rcases hl with hl | hl | hl <;> simp [Lexeme.operand, hl]) nofun

-- A number or a word after a minus sign.
theorem negative {x : Lexeme} (hl : l.role = .minus) (hx : x.role = .number ∨ x.role.isNaming = true) :
    Forms k [l, x] (.operand [l, x]) :=
  .operand (fun _ _ => by simp [Lexeme.operand, hl, hx]) nofun

theorem text (hl : l.role = .text) : Forms k [l] (.operand [l]) := by
  refine .operand (fun r hr => ?_) nofun
  have : r.head?.any (·.role = .cast) = false := by
    simp only [Option.any_eq_false, decide_eq_false_iff_not]
    intro x hx hm
    simpa [hm, Role.continues] using (hr x hx).1
  simp [Lexeme.operand, hl, this]

theorem marked {x : Lexeme} (hl : l.role.isNaming = true) (hx : x.role = .text) :
    Forms k [l, x] (.operand [l, x]) :=
  .operand (fun _ _ => by simp [operand_of_isNaming hl, named, hx]) nofun

theorem zoned {x : Lexeme} (hl : l.role.isNaming = true) (hx : x.role = .withWord)
    (ha : a.map role = [.name, .name, .text]) : Forms k (l :: x :: a) (.operand (l :: x :: a)) := by
  refine .operand (fun r _ => ?_) nofun
  have hlength : a.length = 3 := by simpa using congrArg List.length ha
  simp [operand_of_isNaming hl, named, hx, ← hlength, ha]

theorem constant (h : Constant ts) : Forms k (ts.map .token) (.operand (ts.map .token)) := by
  cases h
  case word h => exact .word (Token.isNaming_role_of_word h)
  case number => exact .single (.inl rfl)
  case negative => exact .negative (by decide) (.inl rfl)
  case negativeWord h => exact .negative (by decide) (.inr (Token.isNaming_role_of_word h))
  case text => exact .text rfl
  case marked h => exact .marked (Token.isNaming_role_of_word h) rfl
  case cast => exact .operand (fun _ _ => by simp [Lexeme.operand, Lexeme.role, Token.role]; decide) nofun
  case zoned a => exact .zoned (by decide) (by decide) (congrArg (_ :: _ :: [·]) (rfl : role (.token ⟨.text, a⟩) = .text))
  case call w a h =>
    exact .call (l := .token ⟨.word, w⟩) (a := [.token ⟨.text, a⟩]) (Token.isNaming_role_of_word h) rfl

end Expr.Forms

open Fragment

-- Where the first computation gives something, the second one gives what goes with it.
def Follows {α β : Type} (p : α → β → Prop) (x : Result α) (y : Result β) : Prop :=
  ∀ a, x = .ok a → ∃ b, y = .ok b ∧ p a b

namespace Follows

variable {α β γ δ : Type} {p : α → β → Prop} {q : γ → δ → Prop} {x : Result α} {y : Result β}

theorem ok {a : α} {b : β} (h : p a b) : Follows p (.ok a) (.ok b) := by
  rintro _ ⟨⟩
  exact ⟨b, rfl, h⟩

theorem error (e : DatabaseError) (y : Result β) : Follows p (.error e) y :=
  fun _ h => by simp at h

theorem bind {f : α → Result γ} {g : β → Result δ} (h : Follows p x y)
    (hf : ∀ a b, p a b → Follows q (f a) (g b)) : Follows q (x >>= f) (y >>= g) := by
  intro c hc
  cases x
  case error => simp [Bind.bind, Except.bind] at hc
  case ok a =>
    obtain ⟨b, rfl, hab⟩ := h a rfl
    exact hf a b hab c hc

-- The second computation goes on with what both give.
theorem bind_both {f : α → Result γ} {g : α → β → Result δ} (h : Follows p x y)
    (hf : ∀ a b, p a b → Follows q (f a) (g a b)) : Follows q (x >>= f) (x >>= fun a => y >>= g a) := by
  intro c hc
  cases x
  case error => simp [Bind.bind, Except.bind] at hc
  case ok a =>
    obtain ⟨b, rfl, hab⟩ := h a rfl
    exact hf a b hab c hc

-- A check comes first.
theorem after {f : γ → Result α} {z : Result γ} (h : ∀ c, Follows p (f c) y) : Follows p (z >>= f) y := by
  intro a ha
  cases z
  case error => simp [Bind.bind, Except.bind] at ha
  case ok c => exact h c a ha

-- The second computation is the first one with a function applied to what it gives.
theorem of_yields {g : α → β} (h : Yields (fun a => p a (g a)) x) : Follows p x (x >>= fun a => return g a) := by
  rintro a rfl
  exact ⟨g a, rfl, h a rfl⟩

theorem self {p : α → Prop} (h : Yields p x) : Follows (fun a b => a = b ∧ p a) x x :=
  fun a ha => ⟨a, ha, rfl, h a ha⟩

theorem and {r : α → Prop} (h : Follows p x y) (hx : Yields r x) : Follows (fun a b => r a ∧ p a b) x y := by
  intro a ha
  obtain ⟨b, hb, hab⟩ := h a ha
  exact ⟨b, hb, hx a ha, hab⟩

theorem mono {q : α → β → Prop} (h : Follows p x y) (hp : ∀ a b, p a b → q a b) : Follows q x y := by
  intro a ha
  obtain ⟨b, hb, hab⟩ := h a ha
  exact ⟨b, hb, hp a b hab⟩

end Follows

-- What a vendor writes for a condition that is known: a word, or two numbers that are compared.
def Dialect.truth (d : Dialect) (text : String) : Expr :=
  match (d.lexis.words text).map Lexeme.token with
  | [a, _, b] => .compare .eq (.operand [a]) (.operand [b])
  | ls => .operand ls

-- Expressions that are written one after the other within parentheses.
def Expr.concats : List Expr → Expr
  | [] => .operand (Lexeme.grouped [])
  | e :: es => es.foldl .concat e

namespace Context

variable (cx : Context)

-- An operand that is taken as it is written.
def operand (f : Fragment) : Expr :=
  .operand (f.lexemes cx.dialect)

def lowered (f : Fragment) : Expr :=
  cx.operand (words "LOWER(" ++ f ++ words ")")

-- The pattern of a text with a wildcard after it.
def suffixed (f : Fragment) (e : Expr) : Expr :=
  match cx.dialect.concatStyle with
  | .operator => .concat e (cx.operand (words "'%'"))
  | .function => cx.operand (cx.withSuffix f)

def prefixed (f : Fragment) (e : Expr) : Expr :=
  match cx.dialect.concatStyle with
  | .operator => .concat (cx.operand (words "'%'")) e
  | .function => cx.operand (cx.withStart f)

end Context

-- The expressions that columns stand for. Those that are concatenated by an operator have parts.

mutual

def Column.expr (cx : Context) (hint : Option ColumnType) : Column → Result Expr
  | .function f => f.expr cx
  | c => do return cx.operand (← c.render cx hint)

def Column.exprs (cx : Context) (hint : Option ColumnType) : List Column → Result (List Expr)
  | [] => .ok []
  | a :: r => do
    let head ← a.expr cx hint
    let tail ← Column.exprs cx hint r
    return head :: tail

def Function.expr (cx : Context) : Function → Result Expr
  | ⟨kind, args, distinct, window⟩ => do
    let call ← (
      if kind = .concat ∧ cx.dialect.concatStyle = .operator then do
        let hint := (Function.mk kind args distinct none).argumentType? cx.catalog
        return .concats (← Column.exprs cx hint args)
      else do return cx.operand (Function.call cx kind distinct (← Function.renderArguments cx kind args distinct)))
    match window with
    | none => return call
    | some window => return .windowed call ((parenthesised (← window.render cx)).lexemes cx.dialect)

end

-- A predicate as a reader is to see it: the same tree, with the leaves as the vendor writes them.
def Predicate.tree (cx : Context) : Predicate → Result Expr
  | .always => .ok (cx.dialect.truth cx.dialect.trueText)
  | .never => .ok (cx.dialect.truth cx.dialect.falseText)
  | .comparison op a b =>
    match op.nullTest? a b with
    | some (negated, c) => do return .isNull negated (← c.expr cx none)
    | none => do
      let left ← a.expr cx (b.type? cx.catalog)
      let right ← b.expr cx (a.type? cx.catalog)
      return .compare op left right
  | .inList column list =>
    if list.isEmpty then .ok (cx.dialect.truth cx.dialect.falseText)
    else do
      let left ← column.expr cx none
      let items ← Column.renderAll cx (column.type? cx.catalog) list
      return .inList left ((parenthesised (joined ", " items)).lexemes cx.dialect)
  | .between column low high => do
    let hint := column.type? cx.catalog
    let left ← column.expr cx none
    let lower ← low.expr cx hint
    let upper ← high.expr cx hint
    return .between left lower upper
  | .like a b caseSensitive =>
    if caseSensitive || cx.supports .caseInsensitiveLike then do
      let left ← a.expr cx (b.type? cx.catalog)
      let right ← b.expr cx (a.type? cx.catalog)
      return .like caseSensitive left right
    else do
      let left ← a.render cx none
      let right ← b.render cx none
      return .like true (cx.lowered left) (cx.lowered right)
  | .startsWith a b => do
    let left ← a.expr cx none
    return .like true left (cx.suffixed (← b.render cx none) (← b.expr cx none))
  | .endsWith a b => do
    let left ← a.expr cx none
    return .like true left (cx.prefixed (← b.render cx none) (← b.expr cx none))
  | .existsRow s => do return .existsRow ((parenthesised (← s.render cx)).lexemes cx.dialect)
  | .and p q => do return .and (← p.tree cx) (← q.tree cx)
  | .or p q => do return .or (← p.tree cx) (← q.tree cx)
  | .not p => do return .not (← p.tree cx)

end PolySql
