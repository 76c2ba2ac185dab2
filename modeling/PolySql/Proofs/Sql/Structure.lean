import PolySql.Proofs.Sql.Tree

namespace PolySql

namespace Fragment

variable {d : Dialect} {w : String} (hd : d ∈ Dialect.builtins)

include hd

theorem roles_words (hw : ∀ l ∈ Lexis.vendors, (l.words w).map Token.role = ms) :
    ((words w).lexemes d).map Lexeme.role = ms := by
  rw [lexemes_words, List.map_map]
  exact hw _ (Dialect.lexis_mem hd)

theorem exists_lexeme (hw : ∀ l ∈ Lexis.vendors, (l.words w).map Token.role = [m]) :
    ∃ l, (words w).lexemes d = [l] ∧ l.role = m :=
  List.map_eq_singleton_iff.mp (roles_words hd hw)

theorem lexemes_words_append (hw : ∀ l ∈ Lexis.vendors, l.words w = l.words a ++ l.words b) :
    (words w).lexemes d = (words a).lexemes d ++ (words b).lexemes d := by
  simp [lexemes_words, hw _ (Dialect.lexis_mem hd)]

theorem lexemes_opening : (words "(").lexemes d = [.symbol '('] := by
  have hw : ∀ l ∈ Lexis.vendors, l.words "(" = [⟨.symbol, ['(']⟩] := by decide
  rw [lexemes_words, hw _ (Dialect.lexis_mem hd)]
  rfl

theorem lexemes_closing : (words ")").lexemes d = [.symbol ')'] := by
  have hw : ∀ l ∈ Lexis.vendors, l.words ")" = [⟨.symbol, [')']⟩] := by decide
  rw [lexemes_words, hw _ (Dialect.lexis_mem hd)]
  rfl

theorem lexemes_parenthesised (f : Fragment) :
    (parenthesised f).lexemes d = Lexeme.grouped (f.lexemes d) := by
  have : parenthesised f = words "(" ++ f ++ words ")" := rfl
  simp [this, lexemes_opening hd, lexemes_closing hd, Lexeme.grouped]

-- Words that end in an opening parenthesis, up to the one that closes it.
theorem lexemes_call (hw : ∀ l ∈ Lexis.vendors, l.words w = l.words a ++ l.words "(") (f : Fragment) :
    (words w ++ f ++ words ")").lexemes d = (words a).lexemes d ++ Lexeme.grouped (f.lexemes d) := by
  simp [lexemes_words_append hd hw, lexemes_opening hd, lexemes_closing hd, Lexeme.grouped]

theorem exists_lexeme_name (s : String) : ∃ l, (name s).lexemes d = [l] ∧ l.role.isNaming = true := by
  obtain ⟨t, ht, hs, -⟩ := Dialect.spells_identifier hd s
  refine ⟨.token t, ?_, ht.isNaming_role⟩
  simp [lexemes, Fragment.name, Piece.lexemes_of_spells (p := .name s) hs rfl]

theorem exists_constant (v : Value) : ∃ ts, Fragment.lexemes d [.literal v] = ts.map .token ∧ Constant ts := by
  obtain ⟨ts, hs, ht⟩ := Dialect.constant_literal hd v
  exact ⟨ts, by simp [lexemes, Piece.lexemes_of_spells (p := .literal v) hs rfl], ht⟩

end Fragment

open Fragment PolySql.Expr

-- A query begins with its first word.
theorem Select.prefix_render (cx : Context) (s : Select) : Yields (words "SELECT " <+: ·) (s.render cx) := by
  rw [Select.render_eq]
  split
  case isTrue => exact .error _
  case isFalse =>
    iterate 9 refine (Yields.trivial _).bind fun _ _ => ?_
    refine .ok ?_
    simp only [List.append_assoc]
    exact List.prefix_append ..

-- Expressions one after the other, all of them operands to the operator between them.
theorem Expr.Forms.concats {ls : List Lexeme} {as : List (List Lexeme)} {es : List Expr} (h : Forms 5 a e)
    (hls : ls.map Lexeme.role = [.concat]) (hs : List.Forall₂ (Forms 6) as es) :
    Forms 5 (a ++ as.flatMap (ls ++ ·)) (es.foldl .concat e) := by
  obtain ⟨l, rfl, hl⟩ := List.map_eq_singleton_iff.mp hls
  induction hs generalizing a e
  case nil => simpa using h
  case cons hb _ ih =>
    have := ih (h.binary hb (by rw [hl]; rfl) (by rw [hl]; rfl) (Nat.le_refl 5))
    simpa using this

section

variable {cx : Context} (hcx : cx.dialect ∈ Dialect.builtins)

include hcx

theorem forms_qualified (owner : String) {f : Fragment} (hf : f.lexemes cx.dialect = [y]) :
    Forms k (Fragment.lexemes cx.dialect (.name owner :: .words "." :: f))
      (cx.operand (.name owner :: .words "." :: f)) := by
  obtain ⟨l, hl, hlm⟩ := exists_lexeme_name hcx owner
  obtain ⟨x, hx, hxm⟩ := exists_lexeme hcx (w := ".") (m := .dot) (by decide)
  have : .name owner :: .words "." :: f = name owner ++ words "." ++ f := rfl
  rw [Context.operand, this]
  simp only [lexemes_append, hl, hx, hf]
  exact .qualified hlm hxm

theorem forms_columnName (owner column : String) :
    Forms k ((cx.columnName owner column).lexemes cx.dialect) (cx.operand (cx.columnName owner column)) := by
  obtain ⟨y, hy, hym⟩ := exists_lexeme_name hcx column
  rw [Context.columnName]
  split
  case isTrue => exact forms_qualified hcx owner (f := name column) hy
  case isFalse =>
    have : Fragment.lexemes cx.dialect [.name column] = [y] := hy
    rw [Context.operand, this]
    exact .word hym

theorem forms_call (kind : FunctionKind) (distinct : Bool) (h : ∀ f ∈ args, Whole cx.dialect f)
    (hkind : ¬(kind = .concat ∧ cx.dialect.concatStyle = .operator)) :
    Forms k ((Function.call cx kind distinct args).lexemes cx.dialect)
      (cx.operand (Function.call cx kind distinct args)) := by
  have hkinds : ∀ d ∈ Dialect.builtins, (d.lexis.words (d.functionName kind)).map Token.role = [.name] := by
    cases kind <;> decide
  obtain ⟨t, ht, hm⟩ := List.map_eq_singleton_iff.mp (hkinds _ hcx)
  have hname : (words (cx.dialect.functionName kind)).lexemes cx.dialect = [.token t] := by
    simp [lexemes_words, ht]
  have hnaming : (Lexeme.token t).role.isNaming = true := by
    simp [Lexeme.role, hm, Role.isNaming]
  have happlied : Forms k ((Function.call.applied distinct args
      (words (cx.dialect.functionName kind))).lexemes cx.dialect)
        (cx.operand (Function.call.applied distinct args (words (cx.dialect.functionName kind)))) := by
    rw [Context.operand, Function.applied_eq, lexemes_append, hname, lexemes_parenthesised hcx]
    exact .call hnaming (whole_arguments hcx distinct h).nesting
  unfold Function.call
  split
  case h_1 =>
    rw [Context.operand, hname]
    exact .word hnaming
  case h_2 =>
    split
    case h_1 hstyle => exact absurd ⟨rfl, hstyle⟩ hkind
    case h_2 => exact happlied
  case h_3 =>
    split
    case isTrue =>
      have hstar : (words "(*)").lexemes cx.dialect = Lexeme.grouped ((words "*").lexemes cx.dialect) := by
        rw [lexemes_words_append hcx (a := "(") (b := "*)") (by decide),
          lexemes_words_append hcx (w := "*)") (a := "*") (b := ")") (by decide)]
        simp [lexemes_opening hcx, lexemes_closing hcx, Lexeme.grouped]
      have hwhole : Whole cx.dialect (words "*") := .phrase hcx (by decide)
      rw [Context.operand, lexemes_append, hname, hstar]
      exact .call hnaming hwhole.nesting
    case isFalse => exact happlied
  case h_4 => exact happlied

end

theorem lexemes_joined (w : String) (f : Fragment) (r : List Fragment) (d : Dialect) :
    (joined w (f :: r)).lexemes d =
      f.lexemes d ++ (r.map (·.lexemes d)).flatMap ((words w).lexemes d ++ ·) := by
  induction r generalizing f
  case nil => simp [joined]
  case cons g r ih =>
    have : joined w (f :: g :: r) = f ++ (words w ++ joined w (g :: r)) := rfl
    simp [this, ih]

theorem forms_concat {cx : Context} (hcx : cx.dialect ∈ Dialect.builtins) (distinct : Bool)
    (hstyle : cx.dialect.concatStyle = .operator)
    (h : List.Forall₂ (fun f e => Forms 6 (f.lexemes cx.dialect) e) fs es) :
    Forms k ((Function.call cx .concat distinct fs).lexemes cx.dialect) (.concats es) := by
  have hcall : Function.call cx .concat distinct fs = parenthesised (joined " || " fs) := by
    simp [Function.call, hstyle]
  rw [hcall, lexemes_parenthesised hcx]
  cases h
  case nil => exact .query rfl (by simp [joined, lexemes])
  case cons f e fs es he hs =>
    have hconcat : ((words " || ").lexemes cx.dialect).map Lexeme.role = [.concat] := roles_words hcx (by decide)
    rw [lexemes_joined]
    refine Forms.grouped (k := 5) ?_ (by omega)
    refine (he.mono (by omega)).concats hconcat ?_
    rwa [List.forall₂_map_left_iff]

-- All columns but functions are operands as they are written.
theorem Column.forms_plain {cx : Context} (hcx : cx.dialect ∈ Dialect.builtins) (hint : Option ColumnType)
    {c : Column} (hc : ∀ f, c ≠ .function f) :
    Yields (fun f => Forms 6 (f.lexemes cx.dialect) (cx.operand f)) (c.render cx hint) := by
  cases c
  case physical id aliasName =>
    rw [Column.render]
    exact .ok (forms_columnName hcx _ _)
  case param v =>
    rw [Column.render]
    exact (Yields.trivial _).bind fun _ _ => .ok (.single (.inr (.inl rfl)))
  case literal v =>
    rw [Column.render]
    refine (Yields.trivial _).bind fun v _ => .ok ?_
    obtain ⟨ts, hts, hconstant⟩ := exists_constant hcx v
    rw [Context.operand, hts]
    exact .constant hconstant
  case subSelect s =>
    have hs : Yields (fun f => Whole cx.dialect f ∧ words "SELECT " <+: f) (s.render cx) :=
      fun f hf => ⟨s.whole_render cx hcx f hf, s.prefix_render cx f hf⟩
    obtain ⟨l, hl, hm⟩ := exists_lexeme hcx (w := "SELECT ") (m := .select) (by decide)
    rw [Column.render]
    refine hs.bind fun f hf => .ok ?_
    obtain ⟨hwhole, g, rfl⟩ := hf
    rw [Context.operand, lexemes_parenthesised hcx]
    exact .query hwhole.nesting (by simp [hl, hm])
  case star table =>
    obtain ⟨y, hy, hym⟩ := exists_lexeme hcx (w := "*") (m := .star) (by decide)
    cases table
    case none =>
      rw [Column.render]
      refine .ok ?_
      rw [Context.operand, hy]
      exact .single (.inr (.inr hym))
    case some table =>
      rw [Column.render]
      exact .ok (forms_qualified hcx _ (f := words "*") hy)
  case null =>
    obtain ⟨l, hl, hm⟩ := exists_lexeme hcx (w := "NULL") (m := .null) (by decide)
    rw [Column.render]
    refine .ok ?_
    rw [Context.operand, hl]
    exact .word (by rw [hm]; rfl)
  case function f => exact absurd rfl (hc f)

mutual

theorem Column.forms_render (cx : Context) (hcx : cx.dialect ∈ Dialect.builtins) (hint : Option ColumnType)
    (c : Column) : Follows (fun f e => Forms 6 (f.lexemes cx.dialect) e) (c.render cx hint) (c.expr cx hint) := by
  have hplain (hc : ∀ f, c ≠ .function f) :
      Follows (fun f e => Forms 6 (f.lexemes cx.dialect) e) (c.render cx hint) (c.expr cx hint) := by
    rw [Column.expr]
    · exact .of_yields (Column.forms_plain hcx hint hc)
    · exact hc
  cases c
  case function f =>
    rw [Column.expr, Column.render]
    exact f.forms_render cx hcx
  all_goals exact hplain nofun
termination_by structural c

theorem Column.forms_renderAll (cx : Context) (hcx : cx.dialect ∈ Dialect.builtins) (hint : Option ColumnType)
    (cs : List Column) : Follows (List.Forall₂ fun f e => Forms 6 (f.lexemes cx.dialect) e)
      (Column.renderAll cx hint cs) (Column.exprs cx hint cs) := by
  cases cs
  case nil =>
    rw [Column.renderAll, Column.exprs]
    exact .ok .nil
  case cons c r =>
    rw [Column.renderAll, Column.exprs]
    exact (c.forms_render cx hcx hint).bind fun _ _ h =>
      (Column.forms_renderAll cx hcx hint r).bind fun _ _ hs => .ok (.cons h hs)
termination_by structural cs

theorem Function.forms_render (cx : Context) (hcx : cx.dialect ∈ Dialect.builtins) (f : Function) :
    Follows (fun f e => Forms 6 (f.lexemes cx.dialect) e) (f.render cx) (f.expr cx) := by
  cases f
  case mk kind args distinct window =>
    have hexprs := Column.forms_renderAll cx hcx
      ((Function.mk kind args distinct none).argumentType? cx.catalog) args
    have hargs := Function.yields_renderArguments kind args distinct (by simp)
      (Column.whole_renderAll cx hcx _ args)
    rw [Function.render_eq, Function.expr]
    refine Follows.bind (p := fun f e => Forms 6 (f.lexemes cx.dialect) e) ?_ fun f e h => ?_
    · split
      case isTrue hc =>
        obtain ⟨rfl, hstyle⟩ := hc
        exact hexprs.bind fun fs es h => .ok (forms_concat hcx distinct hstyle h)
      case isFalse hc =>
        refine (Follows.self hargs).bind fun fs _ h => .ok ?_
        obtain ⟨rfl, h⟩ := h
        exact forms_call hcx kind distinct h hc
    · cases window
      case none =>
        rw [Function.windowed]
        split
        case isTrue => exact .error _ _
        case isFalse => exact .ok h
      case some w =>
        refine .after fun _ => (Follows.self (w.whole_render cx hcx)).bind fun g _ hg => .ok ?_
        obtain ⟨rfl, hg⟩ := hg
        obtain ⟨l, hl, hm⟩ := exists_lexeme hcx (w := " OVER ") (m := .overWord) (by decide)
        have hover := lexemes_call hcx (w := " OVER (") (a := " OVER ") (by decide) g
        rw [lexemes_parenthesised hcx, List.append_assoc, List.append_assoc, lexemes_append, ← List.append_assoc,
          hover, hl]
        exact h.windowed hm hg.nesting
termination_by structural f

end

section

variable {cx : Context} (hcx : cx.dialect ∈ Dialect.builtins)

include hcx

-- An operator between two parts.
theorem Expr.Forms.between_words {f g : Fragment} (ha : Forms k (f.lexemes cx.dialect) a)
    (hw : ∀ l ∈ Lexis.vendors, (l.words w).map Token.role = [m])
    (hb : Forms (n + 1) (g.lexemes cx.dialect) b) (hl : m.level? = some n) (hm : m.binary? = some op)
    (hn : n ≤ k) : Forms n ((f ++ words w ++ g).lexemes cx.dialect) (op a b) := by
  obtain ⟨l, hlw, rfl⟩ := exists_lexeme hcx hw
  simpa [hlw] using ha.binary hb hl hm hn

theorem forms_truth (hw : w = cx.dialect.trueText ∨ w = cx.dialect.falseText) :
    Forms 4 ((words w).lexemes cx.dialect) (cx.dialect.truth w) := by
  have hwords : ∀ d ∈ Dialect.builtins, ∀ w ∈ [d.trueText, d.falseText],
      (d.lexis.words w).map Token.role = [.name] ∨
      (d.lexis.words w).map Token.role = [.number, .compare .eq, .number] := by
    decide
  rw [lexemes_words, Dialect.truth]
  rcases hwords _ hcx w (by simpa using hw) with h | h
  case inl =>
    obtain ⟨t, ht, hm⟩ := List.map_eq_singleton_iff.mp h
    simp only [ht, List.map_cons, List.map_nil]
    exact .word (by simp [Lexeme.role, hm, Role.isNaming])
  case inr =>
    obtain ⟨a, r, hr, ha, h⟩ := List.map_eq_cons_iff.mp h
    obtain ⟨o, r, rfl, ho, h⟩ := List.map_eq_cons_iff.mp h
    obtain ⟨b, rfl, hb⟩ := List.map_eq_singleton_iff.mp h
    simp only [hr, List.map_cons, List.map_nil]
    exact Forms.binary (k := 4) (a := [.token a]) (.single (.inl ha)) (.single (.inl hb))
      (l := .token o) (by simp [Lexeme.role, ho, Role.level?]) (by simp [Lexeme.role, ho, Role.binary?]) (Nat.le_refl 4)

-- A call by a word.
theorem forms_called {f g : Fragment} (hw : ∀ l ∈ Lexis.vendors, (l.words w).map Token.role = [.name])
    (hf : f.lexemes cx.dialect = (words w).lexemes cx.dialect ++ Lexeme.grouped (g.lexemes cx.dialect))
    (hg : Whole cx.dialect g) : Forms k (f.lexemes cx.dialect) (cx.operand f) := by
  obtain ⟨l, hl, hm⟩ := exists_lexeme hcx hw
  rw [Context.operand, hf, hl]
  exact .call (by rw [hm]; rfl) hg.nesting

theorem forms_lowered (hf : Whole cx.dialect f) :
    Forms k ((words "LOWER(" ++ f ++ words ")").lexemes cx.dialect) (cx.lowered f) :=
  forms_called hcx (w := "LOWER") (by decide) (lexemes_call hcx (by decide) f) hf

theorem forms_wildcard : Forms k ((words "'%'").lexemes cx.dialect) (cx.operand (words "'%'")) := by
  obtain ⟨l, hl, hm⟩ := exists_lexeme hcx (w := "'%'") (m := .text) (by decide)
  rw [Context.operand, hl]
  exact .text hm

theorem forms_withSuffix (hf : Whole cx.dialect f) (h : Forms 6 (f.lexemes cx.dialect) e) :
    Forms 5 ((cx.withSuffix f).lexemes cx.dialect) (cx.suffixed f e) := by
  rw [Context.suffixed]
  cases hs : cx.dialect.concatStyle
  case operator =>
    have := h.between_words hcx (w := " || ") (m := .concat) (by decide) (forms_wildcard hcx) rfl rfl
      (Nat.le_succ 5)
    simpa [Context.withSuffix, hs, lexemes_words_append hcx (w := " || '%'") (a := " || ") (b := "'%'") (by decide)]
      using this
  case function =>
    have hg : Whole cx.dialect (f ++ words ", '%'") := hf.before hcx (by decide)
    refine forms_called hcx (w := "CONCAT") (by decide) ?_ hg
    rw [← lexemes_call hcx (w := "CONCAT(") (by decide)]
    simp [Context.withSuffix, hs, lexemes_words_append hcx (w := ", '%')") (a := ", '%'") (b := ")") (by decide)]

theorem forms_withStart (hf : Whole cx.dialect f) (h : Forms 6 (f.lexemes cx.dialect) e) :
    Forms 5 ((cx.withStart f).lexemes cx.dialect) (cx.prefixed f e) := by
  rw [Context.prefixed]
  cases hs : cx.dialect.concatStyle
  case operator =>
    have := (forms_wildcard hcx (k := 5)).between_words hcx (w := " || ") (m := .concat) (by decide) h rfl rfl
      (Nat.le_refl 5)
    simpa [Context.withStart, hs, lexemes_words_append hcx (w := "'%' || ") (a := "'%'") (b := " || ") (by decide)]
      using this
  case function =>
    have hg : Whole cx.dialect (words "'%', " ++ f) := .after hcx (by decide) hf
    refine forms_called hcx (w := "CONCAT") (by decide) ?_ hg
    rw [← lexemes_call hcx (w := "CONCAT(") (by decide)]
    simp [Context.withStart, hs,
      lexemes_words_append hcx (w := "CONCAT('%', ") (a := "CONCAT(") (b := "'%', ") (by decide)]

namespace Predicate

-- Each test of columns reads as one expression below the connectives.

theorem forms_comparison (op : Comparison) (a b : Column) :
    Follows (fun f e => Forms 4 (f.lexemes cx.dialect) e) ((comparison op a b).render cx)
      ((comparison op a b).tree cx) := by
  rw [Predicate.tree]
  rcases hn : op.nullTest? a b with _ | ⟨isNegated, c⟩
  case none =>
    have hop : ∀ l ∈ Lexis.vendors, (l.words (" " ++ op.text ++ " ")).map Token.role = [.compare op] := by
      cases op <;> decide
    rw [render_comparison_of_none hn]
    refine (a.forms_render cx hcx _).bind fun f e ha => (b.forms_render cx hcx _).bind fun g e' hb => .ok ?_
    exact ha.between_words hcx hop (hb.mono (by omega)) rfl rfl (by omega)
  case some =>
    have hw : ∀ l ∈ Lexis.vendors, (l.words (nullTest isNegated)).map Token.role =
        .is :: ((if isNegated then [.not] else []) ++ [.null]) := by
      cases isNegated <;> decide
    rw [render_comparison_of_some hn]
    refine (c.forms_render cx hcx _).bind fun f e h => .ok ?_
    obtain ⟨l, r, hl, hm, hr⟩ := List.map_eq_cons_iff.mp (roles_words hcx hw)
    rw [lexemes_append, hl]
    exact (h.mono (by omega)).isNull hm hr

theorem forms_inList (column : Column) (list : List Column) :
    Follows (fun f e => Forms 4 (f.lexemes cx.dialect) e) ((inList column list).render cx)
      ((inList column list).tree cx) := by
  rw [Predicate.tree]
  cases list
  case nil =>
    rw [Predicate.render]
    exact .ok (forms_truth hcx (.inr rfl))
  case cons c r =>
    obtain ⟨l, hl, hm⟩ := exists_lexeme hcx (w := " IN ") (m := .inList) (by decide)
    rw [Predicate.render]
    · refine (column.forms_render cx hcx _).bind fun f e h => ?_
      refine (Follows.self (Column.whole_renderAll cx hcx _ (c :: r))).bind fun fs _ hs => .ok ?_
      obtain ⟨rfl, hs⟩ := hs
      have hlist : Whole cx.dialect (joined ", " fs) := .joined hcx (by decide) hs
      rw [List.append_assoc, lexemes_append, lexemes_append, hl, lexemes_parenthesised hcx]
      exact (h.mono (by omega)).inList hm hlist.nesting
    · simp

theorem forms_between (column low high : Column) :
    Follows (fun f e => Forms 4 (f.lexemes cx.dialect) e) ((between column low high).render cx)
      ((between column low high).tree cx) := by
  obtain ⟨l, hl, hm⟩ := exists_lexeme hcx (w := " BETWEEN ") (m := .between) (by decide)
  obtain ⟨x, hx, hxm⟩ := exists_lexeme hcx (w := " AND ") (m := .and) (by decide)
  rw [Predicate.render, Predicate.tree]
  refine (column.forms_render cx hcx _).bind fun f e h => (low.forms_render cx hcx _).bind fun f' e' h' =>
    (high.forms_render cx hcx _).bind fun f'' e'' h'' => .ok ?_
  have := (h.mono (n := 4) (by omega)).between hm (h'.mono (by omega)) hxm (h''.mono (by omega))
  simpa [hl, hx] using this

-- A pattern after its operator, and the text before it.
theorem forms_matched {f g : Fragment} (hf : Forms 4 (f.lexemes cx.dialect) e)
    (hg : Forms 5 (g.lexemes cx.dialect) e') :
    Forms 4 ((f ++ words " LIKE " ++ g).lexemes cx.dialect) (.like true e e') :=
  hf.between_words hcx (w := " LIKE ") (m := .like true) (by decide) hg rfl rfl (Nat.le_refl 4)

theorem forms_like (a b : Column) (caseSensitive : Bool) :
    Follows (fun f e => Forms 4 (f.lexemes cx.dialect) e) ((like a b caseSensitive).render cx)
      ((like a b caseSensitive).tree cx) := by
  rw [Predicate.render, Predicate.tree]
  split
  case isTrue =>
    have hop : ∀ l ∈ Lexis.vendors, (l.words (" " ++ (if caseSensitive then "LIKE" else "ILIKE") ++ " ")).map
        Token.role = [.like caseSensitive] := by
      cases caseSensitive <;> decide
    refine (a.forms_render cx hcx _).bind fun f e ha => (b.forms_render cx hcx _).bind fun g e' hb => .ok ?_
    exact ha.between_words hcx hop (hb.mono (by omega)) rfl rfl (by omega)
  case isFalse =>
    refine (Follows.self (a.whole_render cx hcx none)).bind fun f _ ha =>
      (Follows.self (b.whole_render cx hcx none)).bind fun g _ hb => .ok ?_
    obtain ⟨rfl, ha⟩ := ha
    obtain ⟨rfl, hb⟩ := hb
    have := forms_matched hcx (forms_lowered hcx ha) (forms_lowered hcx hb)
    simpa [lexemes_words_append hcx (w := ") LIKE LOWER(") (a := ")") (b := " LIKE LOWER(") (by decide),
      lexemes_words_append hcx (w := " LIKE LOWER(") (a := " LIKE ") (b := "LOWER(") (by decide)] using this

theorem forms_startsWith (a b : Column) :
    Follows (fun f e => Forms 4 (f.lexemes cx.dialect) e) ((startsWith a b).render cx)
      ((startsWith a b).tree cx) := by
  rw [Predicate.render, Predicate.tree]
  refine (a.forms_render cx hcx none).bind fun f e ha => ?_
  refine ((b.forms_render cx hcx none).and (b.whole_render cx hcx none)).bind_both fun g e' hb => .ok ?_
  exact forms_matched hcx (ha.mono (by omega)) (forms_withSuffix hcx hb.1 hb.2)

theorem forms_endsWith (a b : Column) :
    Follows (fun f e => Forms 4 (f.lexemes cx.dialect) e) ((endsWith a b).render cx) ((endsWith a b).tree cx) := by
  rw [Predicate.render, Predicate.tree]
  refine (a.forms_render cx hcx none).bind fun f e ha => ?_
  refine ((b.forms_render cx hcx none).and (b.whole_render cx hcx none)).bind_both fun g e' hb => .ok ?_
  exact forms_matched hcx (ha.mono (by omega)) (forms_withStart hcx hb.1 hb.2)

theorem forms_existsRow (s : Select) :
    Follows (fun f e => Forms 3 (f.lexemes cx.dialect) e) ((existsRow s).render cx) ((existsRow s).tree cx) := by
  obtain ⟨l, hl, hm⟩ := exists_lexeme hcx (w := "EXISTS ") (m := .existsRow) (by decide)
  rw [Predicate.render, Predicate.tree]
  refine (Follows.self (s.whole_render cx hcx)).bind fun f _ h => .ok ?_
  obtain ⟨rfl, h⟩ := h
  rw [lexemes_append, hl, lexemes_parenthesised hcx]
  exact .existsRow h.nesting hm

end Predicate

end

theorem Predicate.forms_render (cx : Context) (hcx : cx.dialect ∈ Dialect.builtins) (p : Predicate) :
    Follows (fun f e => Forms 3 (f.lexemes cx.dialect) e) (p.render cx) (p.tree cx) := by
  have hbelow {f : Fragment} {e : Expr} (h : Forms 4 (f.lexemes cx.dialect) e) : Forms 3 (f.lexemes cx.dialect) e :=
    h.mono (by omega)
  cases p
  case always =>
    rw [Predicate.render, Predicate.tree]
    exact .ok (hbelow (forms_truth hcx (.inl rfl)))
  case never =>
    rw [Predicate.render, Predicate.tree]
    exact .ok (hbelow (forms_truth hcx (.inr rfl)))
  case comparison op a b => exact (forms_comparison hcx op a b).mono fun _ _ => hbelow
  case inList column list => exact (forms_inList hcx column list).mono fun _ _ => hbelow
  case between column low high => exact (forms_between hcx column low high).mono fun _ _ => hbelow
  case like a b caseSensitive => exact (forms_like hcx a b caseSensitive).mono fun _ _ => hbelow
  case startsWith a b => exact (forms_startsWith hcx a b).mono fun _ _ => hbelow
  case endsWith a b => exact (forms_endsWith hcx a b).mono fun _ _ => hbelow
  case existsRow s => exact forms_existsRow hcx s
  case and p q =>
    rw [Predicate.render, Predicate.tree]
    refine (p.forms_render cx hcx).bind fun f e hp => (q.forms_render cx hcx).bind fun g e' hq => .ok ?_
    rw [lexemes_parenthesised hcx]
    exact (hp.between_words hcx (m := .and) (n := 2) (by decide) hq rfl rfl (by omega)).grouped (by omega)
  case or p q =>
    rw [Predicate.render, Predicate.tree]
    refine (p.forms_render cx hcx).bind fun f e hp => (q.forms_render cx hcx).bind fun g e' hq => .ok ?_
    rw [lexemes_parenthesised hcx]
    exact (hp.between_words hcx (m := .or) (n := 1) (by decide) (hq.mono (by omega)) rfl rfl (by omega)).grouped
      (by omega)
  case not p =>
    obtain ⟨l, hl, hm⟩ := exists_lexeme hcx (w := "NOT") (m := .not) (by decide)
    rw [Predicate.render, Predicate.tree]
    refine (p.forms_render cx hcx).bind fun f e h => .ok ?_
    rw [lexemes_append, hl, lexemes_parenthesised hcx]
    exact (h.grouped (by omega)).not hm
termination_by structural p

end PolySql
