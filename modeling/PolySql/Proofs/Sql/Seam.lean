import PolySql.Proofs.Sql.Constant
import PolySql.Sql.Fragment

namespace PolySql

-- What a reader of a statement goes by: its tokens, with values for the placeholders.
inductive Lexeme
  | token (t : Token)
  | value (v : Value)

namespace Lexeme

def isSymbol (c : Char) : Lexeme → Bool
  | token t => t == ⟨.symbol, [c]⟩
  | value _ => false

-- The number of parentheses that are open in the end. No more are closed than have been opened.
def nesting (n : Nat) : List Lexeme → Option Nat
  | [] => some n
  | l :: r =>
    if l.isSymbol '(' then nesting (n + 1) r
    else if l.isSymbol ')' then
      match n with
      | 0 => none
      | n + 1 => nesting n r
    else nesting n r

theorem nesting_append (a b : List Lexeme) :
    nesting n (a ++ b) = (nesting n a).bind (nesting · b) := by
  induction a generalizing n
  case nil => rfl
  case cons l r ih =>
    simp only [List.cons_append, nesting, ih]
    split_ifs
    · rfl
    · cases n <;> rfl
    · rfl

theorem nesting_add (h : nesting n a = some m) (k : Nat) : nesting (n + k) a = some (m + k) := by
  induction a generalizing n
  case nil =>
    cases h
    rfl
  case cons l r ih =>
    simp only [nesting] at h ⊢
    split_ifs at h ⊢
    · rw [Nat.add_right_comm]
      exact ih h
    · cases n
      case zero => nomatch h
      case succ n =>
        rw [Nat.add_right_comm]
        exact ih h
    · exact ih h

end Lexeme

-- Drops the blanks and puts the values in the places of the placeholders, each of which must be the one
-- that is due.
def Dialect.resolve (d : Dialect) (bound : Nat) : List Token → List Value → Option (List Lexeme)
  | [], vs => if vs.isEmpty then some [] else none
  | t :: ts, vs =>
    if t.isBlank then d.resolve bound ts vs
    else if t.kind = .placeholder then do
      let v ← vs.head?
      if t.chars = (d.placeholder.text (bound + 1)).toList then
        return .value v :: (← d.resolve (bound + 1) ts vs.tail)
      else none
    else (d.resolve bound ts vs).map (.token t :: ·)

-- Reads a text before which `bound` parameters stand.
def Dialect.read (d : Dialect) (bound : Nat) (text : String) (params : List Value) : Option (List Lexeme) :=
  (d.lexis.tokens text.toList).bind (d.resolve bound · params)

-- The tokens of words, without the blanks.
def Lexis.words (l : Lexis) (w : String) : List Token :=
  ((l.tokens w.toList).getD []).filter (!·.isBlank)

namespace Piece

def lexemes (d : Dialect) : Piece → List Lexeme
  | param v => [.value v]
  | p => ((d.lexis.tokens (p.text d 0).toList).getD []).filter (!·.isBlank) |>.map .token

-- Where one piece may follow another, so that their tokens stay apart: after a blank or the like, before
-- one, and at the point between two names.
inductive Seam (d : Dialect) : Piece → Piece → Prop
  | opening : d.lexis.shape? w.toList = some .symbol → Seam d (.words w) q
  | closing : w.toList.head? = some c → c ∈ boundaries → Seam d p (.words w)
  | point (s : String) : Seam d (.name s) (.words ".")

-- The words have tokens of their own, none of which is a placeholder.
def IsPlain (d : Dialect) : Piece → Prop
  | words w => ∃ ts, d.lexis.Spells w.toList ts ∧ ∀ t ∈ ts, t.kind ≠ .placeholder
  | _ => True

end Piece

namespace Fragment

def lexemes (d : Dialect) (f : Fragment) : List Lexeme :=
  f.flatMap (·.lexemes d)

@[simp]
theorem lexemes_append (d : Dialect) (f g : Fragment) : (f ++ g).lexemes d = f.lexemes d ++ g.lexemes d :=
  List.flatMap_append

theorem lexemes_words (d : Dialect) (w : String) : (words w).lexemes d = (d.lexis.words w).map .token := by
  simp [lexemes, words, Piece.lexemes, Piece.text, Lexis.words]

end Fragment

-- The pieces can be read one by one, and `i` open parentheses become `j`.
structure Fragment.Sound (d : Dialect) (i : Nat) (f : Fragment) (j : Nat) : Prop where
  chain : f.IsChain (Piece.Seam d)
  plain : ∀ p ∈ f, p.IsPlain d
  nesting : Lexeme.nesting i (f.lexemes d) = some j

section

variable {d : Dialect} {i j k n : Nat} {f g : Fragment}

theorem Dialect.resolve_append (h : ∀ t ∈ ts, Token.kind t ≠ .placeholder) :
    d.resolve n (ts ++ us) vs =
      (d.resolve n us vs).map ((ts.filter (!·.isBlank)).map Lexeme.token ++ ·) := by
  induction ts
  case nil => simp
  case cons t r ih =>
    rw [List.forall_mem_cons] at h
    cases hb : t.isBlank <;> simp [resolve, hb, h.1, ih h.2, Function.comp_def]

-- Of a text that can be read, the placeholders are the ones that are due.
theorem Dialect.placeholders_of_resolve (h : d.resolve n ts vs = some ls) :
    (ts.filter (·.kind = .placeholder)).map (·.chars) =
      (List.range vs.length).map fun k => (d.placeholder.text (n + k + 1)).toList := by
  induction ts generalizing n vs ls
  case nil =>
    cases vs
    case nil => rfl
    case cons => nomatch h
  case cons t r ih =>
    cases hb : t.isBlank
    case true =>
      have : t.kind ≠ .placeholder := by
        rw [Token.isBlank, beq_iff_eq] at hb
        simp [hb]
      simpa [this] using ih (by simpa [resolve, hb] using h)
    case false =>
      by_cases hp : t.kind = .placeholder
      case neg =>
        obtain ⟨ls, h, -⟩ := Option.map_eq_some_iff.mp (by simpa [resolve, hb, hp] using h)
        simpa [hp] using ih h
      case pos =>
        cases vs
        case nil => simp [resolve, hb, hp] at h
        case cons v vs =>
          by_cases ht : t.chars = (d.placeholder.text (n + 1)).toList
          case neg => simp [resolve, hb, hp, ht] at h
          case pos =>
            simp only [resolve, hb, hp, ht, List.head?_cons, List.tail_cons, Option.bind_eq_bind,
              Option.bind_some, if_true, Bool.false_eq_true, if_false, Option.bind_eq_some_iff] at h
            obtain ⟨ls, h, -⟩ := h
            simp [hp, ht, ih h, List.range_succ_eq_map, Nat.add_assoc, Nat.add_comm 1]

theorem Piece.lexemes_of_spells {p : Piece} (h : d.lexis.Spells (p.text d 0).toList ts) (hp : p.param? = none) :
    p.lexemes d = ts.map .token := by
  obtain ⟨all, ha, rfl⟩ := Option.map_eq_some_iff.mp h
  cases p
  case param => nomatch hp
  all_goals exact congrArg (fun x => (x.getD [] |>.filter (!·.isBlank)).map Lexeme.token) ha

variable (hd : d ∈ Dialect.builtins)

include hd

theorem Dialect.tokens_placeholder (k : Nat) :
    d.lexis.tokens (d.placeholder.text k).toList = some [⟨.placeholder, (d.placeholder.text k).toList⟩] := by
  have hpositional : ∀ l ∈ [Lexis.mySql, Lexis.sqlite],
      l.tokens "?".toList = some [⟨.placeholder, "?".toList⟩] := by
    decide
  have hnumbered (l : Lexis) (c : Char) (a : List Char) (h : l.first c = .placeholder)
      (ha : ∀ x ∈ a, isWordChar x = true) :
      l.tokens ((Placeholder.numbered (.ofList (c :: a))).text k).toList =
        some [⟨.placeholder, ((Placeholder.numbered (.ofList (c :: a))).text k).toList⟩] := by
    have hk : ∀ x ∈ a ++ Text.ofNat k, isWordChar x = true := by
      simpa [or_imp, forall_and] using ⟨ha, fun x hx => isWordChar_of_isDigit (Text.isDigit_of_mem_ofNat hx)⟩
    have ht : (l.first c).through (a ++ Text.ofNat k) = some .placeholder := by
      rw [h]
      exact Shape.through_placeholder hk
    simpa [Placeholder.text] using Lexis.tokens_of_through ht rfl
  simp only [builtins, List.mem_cons, List.not_mem_nil, or_false] at hd
  rcases hd with rfl | rfl | rfl | rfl | rfl
  case inl => exact hnumbered .postgres '$' [] rfl (by simp)
  case inr.inl => exact hpositional .mySql List.mem_cons_self
  case inr.inr.inl => exact hpositional .sqlite (List.mem_cons_of_mem _ List.mem_cons_self)
  case inr.inr.inr.inl => exact hnumbered .sqlServer '@' ['P'] rfl (List.forall_mem_singleton.mpr rfl)
  case inr.inr.inr.inr => exact hnumbered .oracle ':' [] rfl (by simp)

namespace Piece

theorem Seam.meets (h : Seam d p q) (hp : d.lexis.tokens (p.text d n).toList = some ts) (m : Nat)
    (r : List Char) : d.lexis.Meets (p.text d n).toList ((q.text d m).toList ++ r) := by
  cases h
  case opening h => exact .of_symbol h
  case closing hc hb => exact .of_boundary hp (by simp [text, hc, hb])
  case point s =>
    obtain ⟨-, -, -, h, -⟩ := Dialect.spells_identifier hd s
    simpa [text] using h r

theorem exists_spelling (h : IsPlain d p) (hp : p.param? = none) (n : Nat) :
    ∃ ts, d.lexis.Spells (p.text d n).toList ts ∧ (∀ t ∈ ts, t.kind ≠ .placeholder) ∧
      p.lexemes d = ts.map .token := by
  cases p
  case words w =>
    obtain ⟨ts, ht, hk⟩ := h
    exact ⟨ts, ht, hk, lexemes_of_spells ht rfl⟩
  case name s =>
    obtain ⟨t, hn, ht, -⟩ := Dialect.spells_identifier hd s
    exact ⟨[t], ht, by simpa using hn.kind_ne, lexemes_of_spells ht rfl⟩
  case literal v =>
    obtain ⟨ts, ht, hc⟩ := Dialect.constant_literal hd v
    exact ⟨ts, ht, hc.kind_ne, lexemes_of_spells ht rfl⟩
  case param => nomatch hp

-- A piece is read as its lexemes, whatever comes after it.
theorem exists_tokens (h : IsPlain d p) (n : Nat) :
    ∃ ts, d.lexis.tokens (p.text d n).toList = some ts ∧ ∀ us vs,
      d.resolve n (ts ++ us) (p.param?.toList ++ vs) =
        (d.resolve (n + p.param?.toList.length) us vs).map (p.lexemes d ++ ·) := by
  rcases hp : p.param? with _ | v
  case none =>
    obtain ⟨_, hs, hk, hl⟩ := exists_spelling hd h hp n
    obtain ⟨ts, ht, rfl, hts⟩ := hs.forall_tokens hk
    exact ⟨ts, ht, fun us vs => hl ▸ Dialect.resolve_append hts⟩
  case some =>
    cases p <;> cases hp
    refine ⟨_, Dialect.tokens_placeholder hd (n + 1), fun us vs => ?_⟩
    cases hrest : d.resolve (n + 1) us vs <;> simp [Dialect.resolve, lexemes, Token.isBlank, hrest]

end Piece

theorem Fragment.read_text (h : f.Sound d i j) (n : Nat) :
    d.read n (f.text d n) f.params = some (f.lexemes d) := by
  obtain ⟨hc, hp, -⟩ := h
  suffices ∃ ts, d.lexis.tokens (f.text d n).toList = some ts ∧
      d.resolve n ts f.params = some (f.lexemes d) by
    obtain ⟨ts, ht, hr⟩ := this
    rw [Dialect.read, ht]
    exact hr
  induction f generalizing n
  case nil => exact ⟨[], rfl, rfl⟩
  case cons p r ih =>
    rw [List.forall_mem_cons] at hp
    obtain ⟨ts, ht, hresolve⟩ := Piece.exists_tokens hd hp.1 n
    obtain ⟨us, hu, hr⟩ := ih (n + p.param?.toList.length) hc.of_cons hp.2
    have hm : d.lexis.Meets (p.text d n).toList
        (Fragment.text d (n + p.param?.toList.length) r).toList := by
      cases r
      case nil => simp [Lexis.Meets, Fragment.text, Fragment.texts]
      case cons q r =>
        have := (List.isChain_cons_cons.mp hc).1.meets hd ht (n + p.param?.toList.length)
        simpa [Fragment.text, Fragment.texts] using this _
    refine ⟨ts ++ us, ?_, ?_⟩
    · have := Lexis.tokens_append hm
      rw [ht, hu] at this
      simpa [Fragment.text, Fragment.texts] using this
    · have := hresolve us (Fragment.params r)
      rw [hr] at this
      cases hv : p.param? <;> simpa [Fragment.params, Fragment.lexemes, hv] using this

end

end PolySql
