import PolySql.Proofs.Sql.Structure
import PolySql.Proofs.Sql.Placeholders

namespace PolySql

open Fragment

-- The join conditions of a table.
inductive Table.Joins (p : Predicate) : Table → Prop
  | on : Joins p (.join kind left right p)
  | left : Joins p left → Joins p (.join kind left right q)
  | right : Joins p right → Joins p (.join kind left right q)

-- The places of conditions in queries and other statements, by the words that open them. A condition that
-- always holds is left out but for joins.
inductive Predicate.Stands (cx : Context) (p : Predicate) : Fragment → String → Prop
  | select : Select.render cx s = .ok g → s.predicate = p → p.isAlways = false → Stands cx p g "WHERE"
  | having : Select.render cx s = .ok g → s.having = some p → p.isAlways = false → Stands cx p g "HAVING"
  | join : Select.render cx s = .ok g → s.table.Joins p → Stands cx p g "ON"
  | update : Update.render cx u = .ok g → u.predicate = p → p.isAlways = false → Stands cx p g "WHERE"
  | delete : Delete.render cx s = .ok g → s.predicate = p → p.isAlways = false → Stands cx p g "WHERE"

namespace Fragment

-- The condition stands after the words, and what follows is no part of it.
def Holds (d : Dialect) (w : String) (condition f : Fragment) : Prop :=
  ∃ a b, f = a ++ (words w ++ (condition ++ b)) ∧ Closes d b

variable {d : Dialect} {f g condition : Fragment} {w : String}

theorem Holds.after (h : Holds d w condition f) (a : Fragment) : Holds d w condition (a ++ f) := by
  obtain ⟨c, b, rfl, hb⟩ := h
  exact ⟨a ++ c, b, by simp only [List.append_assoc], hb⟩

theorem Holds.append (h : Holds d w condition f) (hg : Closes d g) : Holds d w condition (f ++ g) := by
  obtain ⟨c, b, rfl, hb⟩ := h
  exact ⟨c, b ++ g, by simp only [List.append_assoc], hb.append hg⟩

theorem Holds.words (d : Dialect) (w : String) (condition : Fragment) : Holds d w condition (words w ++ condition) :=
  ⟨[], [], by simp, .nil d⟩

end Fragment

section

variable {cx : Context} (hcx : cx.dialect ∈ Dialect.builtins)

include hcx

theorem Table.Joins.holds_render {t : Table} (h : t.Joins p) (hp : p.render cx = .ok f) :
    Yields (Holds cx.dialect " ON " f) (t.render cx) := by
  have hkind (kind : JoinKind) (g : Fragment) : Closes cx.dialect (words kind.text ++ g) :=
    .after hcx (by cases kind <;> decide) g
  induction h
  case on =>
    rw [Table.render, hp]
    refine (Yields.trivial _).bind fun l _ => (Yields.trivial _).bind fun r _ => .ok ?_
    rw [List.append_assoc]
    exact .after (.words _ _ _) _
  case left ih =>
    rw [Table.render]
    refine ih.bind fun l hl => (Yields.trivial _).bind fun r _ => (Yields.trivial _).bind fun g _ => .ok ?_
    simp only [List.append_assoc]
    exact hl.append (hkind _ _)
  case right ih =>
    rw [Table.render]
    refine (Yields.trivial _).bind fun l _ => ih.bind fun r hr => (Yields.trivial _).bind fun g _ => .ok ?_
    rw [List.append_assoc, List.append_assoc]
    exact (hr.append (.after hcx (by decide) g)).after _

theorem Predicate.closes_renderAfter (p : Predicate) : Yields (Closes cx.dialect) (p.renderAfter cx " WHERE ") :=
  (p.tail_renderAfter hcx (p.whole_render cx hcx) (by decide)).mono fun _ h => h.closes

-- The parts of a query that have conditions, and what stands around them.
theorem Select.exists_parts (s : Select) :
    Yields (fun f => ∃ head source filter grouping having tail,
      f = head ++ source ++ filter ++ grouping ++ having ++ tail ∧
      s.table.render cx = .ok source ∧ s.predicate.renderAfter cx " WHERE " = .ok filter ∧
      Closes cx.dialect grouping ∧ Predicate.renderHaving cx s.having = .ok having ∧ Closes cx.dialect tail)
      (s.render cx) := by
  rw [Select.render_eq]
  split
  case isTrue => exact .error _
  case isFalse =>
    refine (Yields.trivial _).bind fun top _ => (Yields.trivial _).bind fun projected _ => ?_
    refine (Yields.self _).bind fun source hsource => (Yields.self _).bind fun filter hfilter => ?_
    refine (Column.tail_renderGrouping cx hcx _).bind fun grouping hgrouping => ?_
    refine (Yields.self _).bind fun having hhaving => ?_
    refine (OrderItem.tail_renderOrder cx hcx _).bind fun order horder => ?_
    refine (Select.tail_renderWindow hcx _ _ _).bind fun window hwindow => ?_
    refine (Select.tail_renderForUpdate hcx _).bind fun lock hlock => .ok ?_
    refine ⟨words "SELECT " ++ (if s.distinct then words "DISTINCT " else []) ++ top ++ joined ", " projected ++
      words " FROM ", source, filter, grouping, having, order ++ window ++ lock, ?_, hsource, hfilter,
      hgrouping.closes, hhaving, ((horder.append hwindow).append hlock).closes⟩
    simp only [List.append_assoc]

namespace Predicate.Stands

variable {p : Predicate}

theorem lexemes_opening (h : p.Stands cx g w) :
    (words (" " ++ w ++ " ")).lexemes cx.dialect = [.token ⟨.word, w.toList⟩] := by
  have hw : ∀ l ∈ Lexis.vendors, ∀ w ∈ ["WHERE", "HAVING", "ON"], l.words (" " ++ w ++ " ") = [⟨.word, w.toList⟩] := by
    decide
  have hmem : w ∈ ["WHERE", "HAVING", "ON"] := by cases h <;> simp
  rw [lexemes_words, hw _ (Dialect.lexis_mem hcx) w hmem]
  rfl

theorem whole (h : p.Stands cx g w) : Whole cx.dialect g := by
  cases h
  case select s _ _ hs => exact s.whole_render cx hcx g hs
  case having s _ _ hs => exact s.whole_render cx hcx g hs
  case join s _ hs => exact s.whole_render cx hcx g hs
  case update u _ _ hu => exact u.whole_render hcx g hu
  case delete s _ _ hs => exact s.whole_render hcx g hs

theorem holds (h : p.Stands cx g w) (hp : p.render cx = .ok f) : Holds cx.dialect (" " ++ w ++ " ") f g := by
  have hfilter (halways : p.isAlways = false) : Yields (Holds cx.dialect " WHERE " f) (p.renderAfter cx " WHERE ") := by
    rw [renderAfter, halways, hp]
    exact .ok (.words _ _ _)
  cases h
  case select s hpredicate halways hs =>
    subst hpredicate
    obtain ⟨head, source, filter, grouping, having, tail, rfl, -, hwhere, hgrouping, hhaving, htail⟩ :=
      s.exists_parts hcx g hs
    have hhaving := (tail_renderHaving cx hcx _ _ hhaving).closes
    exact ((((hfilter halways _ hwhere).after _).append hgrouping).append hhaving).append htail
  case having s hpredicate halways hs =>
    obtain ⟨head, source, filter, grouping, having, tail, rfl, -, -, -, hhaving, htail⟩ := s.exists_parts hcx g hs
    rw [hpredicate, renderHaving, halways, hp] at hhaving
    cases hhaving
    exact ((Holds.words _ _ _).after _).append htail
  case join s hjoin hs =>
    obtain ⟨head, source, filter, grouping, having, tail, rfl, hsource, hwhere, hgrouping, hhaving, htail⟩ :=
      s.exists_parts hcx g hs
    have hon : Holds cx.dialect " ON " f source := hjoin.holds_render hcx hp _ hsource
    have hwhere := closes_renderAfter hcx _ _ hwhere
    have hhaving := (tail_renderHaving cx hcx _ _ hhaving).closes
    exact ((((hon.after _).append hwhere).append hgrouping).append hhaving).append htail
  case update u hpredicate halways hu =>
    subst hpredicate
    suffices Yields (Holds cx.dialect " WHERE " f) (u.render cx) from this g hu
    unfold Update.render
    split
    case isTrue => exact .error _
    case isFalse =>
      iterate 3 refine (Yields.trivial _).bind fun _ _ => ?_
      refine (hfilter halways).bind fun _ hwhere => ?_
      refine (tail_renderDmlLimit hcx _ _ u.limit).bind fun _ hlimit => ?_
      refine (tail_renderReturning hcx u.returning).bind fun _ hreturning => .ok ?_
      exact ((hwhere.after _).append hlimit.closes).append hreturning.closes
  case delete s hpredicate halways hs =>
    subst hpredicate
    suffices Yields (Holds cx.dialect " WHERE " f) (s.render cx) from this g hs
    refine (Yields.trivial _).bind fun _ _ => ?_
    refine (hfilter halways).bind fun _ hwhere => ?_
    refine (tail_renderDmlLimit hcx _ _ s.limit).bind fun _ hlimit => ?_
    refine (tail_renderReturning hcx s.returning).bind fun _ hreturning => .ok ?_
    exact ((hwhere.after _).append hlimit.closes).append hreturning.closes

end Predicate.Stands

end

-- Reads a text as one condition.
def Dialect.readCondition (d : Dialect) (bound : Nat) (text : String) (params : List Value) : Option Expr := do
  let (e, r) ← Expr.ofLexemes (← d.read bound text params)
  if r.isEmpty then return e else none

namespace Predicate

-- The text of a predicate is read as its tree, whatever follows it, and so is the part of a statement in
-- which it stands. Predicates that have one text have one tree.
theorem read_render {cx : Context} (hcx : cx.dialect ∈ Dialect.builtins) (p : Predicate) (h : p.render cx = .ok f) :
    ∃ e ls, p.tree cx = .ok e ∧
      (∀ n, cx.dialect.read n (f.text cx.dialect n) f.params = some ls ∧
        cx.dialect.readCondition n (f.text cx.dialect n) f.params = some e) ∧
      (∀ after, Lexeme.Halts 0 after → Expr.ofLexemes (ls ++ after) = some (e, after)) ∧
      (∀ n q g, render cx q = .ok g → g.text cx.dialect n = f.text cx.dialect n → g.params = f.params →
        q.tree cx = .ok e) ∧
      ∀ g w, p.Stands cx g w → ∀ n, ∃ before after,
        cx.dialect.read n (g.text cx.dialect n) g.params =
          some (before ++ .token ⟨.word, w.toList⟩ :: (ls ++ after)) ∧
        Expr.ofLexemes (ls ++ after) = some (e, after) := by
  have hread {q : Predicate} {g : Fragment} (hq : q.render cx = .ok g) (n : Nat) :
      cx.dialect.read n (g.text cx.dialect n) g.params = some (g.lexemes cx.dialect) :=
    Fragment.read_text hcx (q.whole_render cx hcx g hq) n
  have hcondition {q : Predicate} {g : Fragment} (hq : q.render cx = .ok g) :
      ∃ e, q.tree cx = .ok e ∧ ∀ n, cx.dialect.readCondition n (g.text cx.dialect n) g.params = some e := by
    obtain ⟨e, he, hforms⟩ := q.forms_render cx hcx g hq
    have : Expr.ofLexemes (g.lexemes cx.dialect) = some (e, []) := by
      simpa using hforms.ofLexemes_append (by omega) .nil
    exact ⟨e, he, fun n => by simp [Dialect.readCondition, hread hq, this]⟩
  obtain ⟨e, he, hforms⟩ := p.forms_render cx hcx f h
  obtain ⟨e', he', htext⟩ := hcondition h
  cases he.symm.trans he'
  have hafter (after : List Lexeme) (ha : Lexeme.Halts 0 after) := hforms.ofLexemes_append (by omega) ha
  refine ⟨e, f.lexemes cx.dialect, he, fun n => ⟨hread h n, htext n⟩, hafter, ?_, ?_⟩
  · intro n q g hq hg hparams
    obtain ⟨e', he', htext'⟩ := hcondition hq
    have := htext' n
    rw [hg, hparams, htext n] at this
    cases this
    exact he'
  · intro g w hg n
    have htext := Fragment.read_text hcx (hg.whole hcx) n
    obtain ⟨a, b, rfl, hb⟩ := hg.holds hcx h
    refine ⟨a.lexemes cx.dialect, b.lexemes cx.dialect, ?_, hafter _ ?_⟩
    · simpa [hg.lexemes_opening hcx] using htext
    · simpa using hb [] .nil

-- The `AND` of a range, a pattern with an operator of its own and a constant that is written as a
-- comparison, all below other connectives.
theorem read_below_not :
    let column (name : String) (type : ColumnType) : ColumnDef := ⟨name, type, false, false, false, none⟩
    let table : TableDef := ⟨"note", [column "id" (.int .bits32), column "body" (.string none)], [0], [], []⟩
    let id : Column := .physical ⟨0, 0⟩ none
    let body : Column := .physical ⟨0, 1⟩ none
    let p : Predicate := .not (.or
      (.and (.between id (.param (.int 1)) (.param (.int 2))) (.startsWith body (.param (.text "x"))))
      (.and (.comparison .ne body .null) .never))
    let s : Select := (Select.new (.physical 0 none) [id]).filter p
    let cx : Context := .new ⟨[table]⟩ .oracle none
    ∃ f g e, p.render cx = .ok f ∧ s.render cx = .ok g ∧ p.Stands cx g "WHERE" ∧ p.tree cx = .ok e ∧
      f.text .oracle 0 = "NOT(((NOTE.ID BETWEEN :1 AND :2 AND NOTE.BODY LIKE :3 || '%') OR " ++
        "(NOTE.BODY IS NOT NULL AND 1=0)))" ∧
      Dialect.oracle.readCondition 0 (f.text .oracle 0) f.params = some e ∧
      (Statement.select s).compile cx = .ok ⟨g.text .oracle 0, g.params⟩ ∧
      (∃ before ls after, Expr.ofLexemes (ls ++ after) = some (e, after) ∧
        Dialect.oracle.read 0 (g.text .oracle 0) g.params =
          some (before ++ .token ⟨.word, "WHERE".toList⟩ :: (ls ++ after))) ∧
      ∃ e₁ e₂ e₃ e₄ e₅ e₆ e₇ e₈ e₉, e = .not (.or
        (.and (.between e₁ e₂ e₃) (.like true e₄ (.concat e₅ e₆)))
        (.and (.isNull true e₇) (.compare .eq e₈ e₉))) := by
  intro column table id body p s cx
  have htext : (p.render cx).toOption.map (·.text .oracle 0) = some ("NOT(((NOTE.ID BETWEEN :1 AND :2 AND " ++
      "NOTE.BODY LIKE :3 || '%') OR (NOTE.BODY IS NOT NULL AND 1=0)))") := by
    decide +kernel
  have hparams : (s.render cx).toOption.map (·.params.length) = some 3 := by decide +kernel
  have hok {α : Type} {r : Result α} {a : α} (h : r.toOption = some a) : r = .ok a := by
    cases r <;> cases h
    rfl
  obtain ⟨f, hf, htext⟩ := Option.map_eq_some_iff.mp htext
  obtain ⟨g, hg, hparams⟩ := Option.map_eq_some_iff.mp hparams
  have hcompile : (Statement.select s).compile cx = .ok ⟨g.text .oracle 0, g.params⟩ := by
    have : (Statement.select s).compile cx = cx.command g := by rw [Statement.compile, hok hg]; rfl
    rw [this, Context.command, hparams]
    rfl
  have hstands : p.Stands cx g "WHERE" := .select (hok hg) rfl rfl
  have hcx : cx.dialect ∈ Dialect.builtins := by simp [cx, Context.new, Dialect.builtins]
  obtain ⟨e, ls, he, hread, -, -, hplace⟩ := read_render hcx p (hok hf)
  obtain ⟨before, after, hsql, hwhere⟩ := hplace g "WHERE" hstands 0
  refine ⟨f, g, e, hok hf, hok hg, hstands, he, htext, (hread 0).2, hcompile, ⟨before, ls, after, hwhere, hsql⟩, ?_⟩
  have htruth : Dialect.oracle.truth "1=0" =
      .compare .eq (.operand [.token ⟨.number, ['1']⟩]) (.operand [.token ⟨.number, ['0']⟩]) := by
    have : Dialect.oracle.lexis.words "1=0" = [⟨.number, ['1']⟩, ⟨.operator, ['=']⟩, ⟨.number, ['0']⟩] := by decide
    simp [Dialect.truth, this]
  cases he
  exact ⟨_, _, _, _, _, _, _, _, _, congrArg (fun e => Expr.not (.or _ (.and _ e))) htruth⟩

end Predicate

end PolySql
