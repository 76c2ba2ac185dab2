import PolySql.Proofs.Sql.Rendering
import PolySql.Proofs.Sql.Unqualified

namespace PolySql

open Fragment

-- The number of columns of tables that a query and its parts name in their text.

mutual

def Column.mentions : Column → Nat
  | .physical .. => 1
  | .subSelect s => s.mentions
  | .function f => f.mentions
  | .param _ | .literal _ | .star _ | .null => 0

def Column.allMentions : List Column → Nat
  | [] => 0
  | a :: r => a.mentions + Column.allMentions r

def Function.mentions : Function → Nat
  | ⟨kind, args, _, window⟩ => (if Function.rendersArguments kind then Column.allMentions args else 0) +
    match window with
    | none => 0
    | some w => w.mentions

def Window.mentions : Window → Nat
  | ⟨partition, order⟩ => Column.allMentions partition + OrderItem.allMentions order

def OrderItem.mentions : OrderItem → Nat
  | ⟨column, _⟩ => column.mentions

def OrderItem.allMentions : List OrderItem → Nat
  | [] => 0
  | a :: r => a.mentions + OrderItem.allMentions r

def Predicate.mentions : Predicate → Nat
  | .always | .never => 0
  | .comparison _ a b | .like a b _ | .startsWith a b | .endsWith a b => a.mentions + b.mentions
  | .inList column list => if list.isEmpty then 0 else column.mentions + Column.allMentions list
  | .between column low high => column.mentions + low.mentions + high.mentions
  | .existsRow s => s.mentions
  | .and p q | .or p q => p.mentions + q.mentions
  | .not p => p.mentions

def Table.mentions : Table → Nat
  | .physical .. => 0
  | .join _ left right condition => left.mentions + right.mentions + condition.mentions
  | .subSelect s _ => s.mentions

def Select.mentions : Select → Nat
  | ⟨table, columns, _, predicate, groups, having, items, _, _, _⟩ =>
    Column.allMentions columns + table.mentions + predicate.mentions + Column.groupingMentions groups +
      Predicate.havingMentions having + OrderItem.orderMentions items

def Predicate.havingMentions : Option Predicate → Nat
  | none => 0
  | some p => p.mentions

def Column.groupingMentions : Option (List Column) → Nat
  | none => 0
  | some columns => Column.allMentions columns

def OrderItem.orderMentions : Option (List OrderItem) → Nat
  | none => 0
  | some items => OrderItem.allMentions items

end

theorem Comparison.mentions_of_nullTest? {op : Comparison} {isNegated : Bool}
    (h : op.nullTest? a b = some (isNegated, c)) : a.mentions + b.mentions = c.mentions := by
  have hnull {x : Column} (h : x.isNull = true) : x.mentions = 0 := by
    cases x
    case null => rfl
    all_goals nomatch h
  cases op <;> simp only [nullTest?, reduceCtorEq] at h
  all_goals
    split_ifs at h with hb ha <;> cases h
    · rw [hnull hb, Nat.add_zero]
    · rw [hnull ha, Nat.zero_add]

-- The two computations fail alike, or give the same text but for the tables of so many columns.
abbrev Sheds (n : Nat) (r r' : Result Fragment) : Prop :=
  Result.Alike (Unqualifies n) r r'

abbrev ShedsAll (n : Nat) (r r' : Result (List Fragment)) : Prop :=
  Result.Alike (UnqualifiesAll n) r r'

theorem Sheds.refl (r : Result Fragment) : Sheds 0 r r :=
  Result.Alike.refl Unqualifies.refl r

section

variable {cx : Context} {a b c : Column}
variable (ha : ∀ hint, Sheds a.mentions (a.render cx hint) (a.render cx.unqualified hint))

include ha

namespace Predicate

theorem sheds_inList (hlist : ∀ hint, ShedsAll (Column.allMentions list) (Column.renderAll cx hint list)
      (Column.renderAll cx.unqualified hint list)) :
    Sheds (inList a list).mentions ((inList a list).render cx) ((inList a list).render cx.unqualified) := by
  cases list
  case nil => exact .refl _
  case cons x r =>
    rw [Predicate.render, Predicate.render]
    · exact (ha _).bind fun f f' hf => (hlist _).bind fun fs fs' hfs =>
        .ok ((hf.right _).append (hfs.joined ", ").parenthesised)
    all_goals simp

variable (hb : ∀ hint, Sheds b.mentions (b.render cx hint) (b.render cx.unqualified hint))

include hb

theorem sheds_comparison (op : Comparison) : Sheds (comparison op a b).mentions ((comparison op a b).render cx)
    ((comparison op a b).render cx.unqualified) := by
  rcases hn : op.nullTest? a b with _ | ⟨isNegated, c⟩
  case none =>
    rw [render_comparison_of_none hn, render_comparison_of_none hn]
    exact (ha _).bind fun f f' hf => (hb _).bind fun g g' hg => .ok ((hf.right _).append hg)
  case some =>
    have hc : Sheds c.mentions (c.render cx none) (c.render cx.unqualified none) := by
      rcases Comparison.eq_of_nullTest? hn with rfl | rfl
      case inl => exact ha none
      case inr => exact hb none
    rw [render_comparison_of_some hn, render_comparison_of_some hn, mentions, Comparison.mentions_of_nullTest? hn]
    exact hc.bind fun f f' hf => .ok (hf.right _)

theorem sheds_between (hc : ∀ hint, Sheds c.mentions (c.render cx hint) (c.render cx.unqualified hint)) :
    Sheds (between a b c).mentions ((between a b c).render cx) ((between a b c).render cx.unqualified) := by
  rw [Predicate.render, Predicate.render]
  exact (ha _).bind fun f f' hf => (hb _).bind fun g g' hg => (hc _).bind fun e e' he =>
    .ok ((((hf.right _).append hg).right _).append he)

theorem sheds_like (caseSensitive : Bool) : Sheds (like a b caseSensitive).mentions
    ((like a b caseSensitive).render cx) ((like a b caseSensitive).render cx.unqualified) := by
  have hsupports : cx.unqualified.supports .caseInsensitiveLike = cx.supports .caseInsensitiveLike := rfl
  rw [Predicate.render, Predicate.render, hsupports]
  split
  case isTrue => exact (ha _).bind fun f f' hf => (hb _).bind fun g g' hg => .ok ((hf.right _).append hg)
  case isFalse =>
    exact (ha _).bind fun f f' hf => (hb _).bind fun g g' hg => .ok ((((hf.left _).right _).append hg).right _)

theorem sheds_startsWith : Sheds (startsWith a b).mentions ((startsWith a b).render cx)
    ((startsWith a b).render cx.unqualified) := by
  rw [Predicate.render, Predicate.render]
  exact (ha _).bind fun f f' hf => (hb _).bind fun g g' hg => .ok ((hf.right _).append (unqualifies_withSuffix hg))

theorem sheds_endsWith : Sheds (endsWith a b).mentions ((endsWith a b).render cx)
    ((endsWith a b).render cx.unqualified) := by
  rw [Predicate.render, Predicate.render]
  exact (ha _).bind fun f f' hf => (hb _).bind fun g g' hg => .ok ((hf.right _).append (unqualifies_withStart hg))

end Predicate

end

theorem Predicate.sheds_renderAfter {cx : Context} {p : Predicate} (opening : String)
    (h : Sheds p.mentions (p.render cx) (p.render cx.unqualified)) :
    Sheds p.mentions (p.renderAfter cx opening) (p.renderAfter cx.unqualified opening) := by
  rw [renderAfter, renderAfter]
  split
  case isTrue halways =>
    cases p
    case always => exact .refl _
    all_goals cases halways
  case isFalse => exact h.bind fun f f' hf => .ok (hf.left _)

mutual

theorem Column.sheds_render {cx : Context} (h : cx.qualified = true) (hint : Option ColumnType) (c : Column) :
    Sheds c.mentions (c.render cx hint) (c.render cx.unqualified hint) := by
  cases c
  case physical id aliasName =>
    rw [Column.render, Column.render]
    exact .ok (unqualifies_columnName h _ _)
  case subSelect s =>
    rw [Column.render, Column.render]
    exact (s.sheds_render h).bind fun f f' hf => .ok hf.parenthesised
  case function f =>
    rw [Column.render, Column.render]
    exact f.sheds_render h
  case star table => cases table <;> exact .refl _
  all_goals exact .refl _
termination_by structural c

theorem Column.sheds_renderAll {cx : Context} (h : cx.qualified = true) (hint : Option ColumnType) (cs : List Column) :
    ShedsAll (Column.allMentions cs) (Column.renderAll cx hint cs) (Column.renderAll cx.unqualified hint cs) := by
  cases cs
  case nil => exact .ok .nil
  case cons a r =>
    rw [Column.renderAll, Column.renderAll]
    exact (a.sheds_render h hint).bind fun f f' hf => (Column.sheds_renderAll h hint r).bind fun fs fs' hfs =>
      .ok (.cons hf hfs)
termination_by structural cs

theorem Function.sheds_render {cx : Context} (h : cx.qualified = true) (f : Function) :
    Sheds f.mentions (f.render cx) (f.render cx.unqualified) := by
  cases f
  case mk kind args distinct window =>
    rw [Function.render_eq, Function.render_eq]
    have hargs : Sheds (if Function.rendersArguments kind then Column.allMentions args else 0)
        (Function.renderArguments cx kind args distinct >>= fun fs => return Function.call cx kind distinct fs)
        (Function.renderArguments cx.unqualified kind args distinct >>= fun fs =>
          return Function.call cx.unqualified kind distinct fs) := by
      rw [Function.renderArguments, Function.renderArguments]
      split
      case isTrue hkind =>
        exact (Column.sheds_renderAll h _ args).bind fun fs fs' hfs => .ok (unqualifies_call hkind distinct hfs)
      case isFalse => exact .refl _
    refine hargs.bind fun call call' hcall => ?_
    cases window
    case none =>
      rw [Function.windowed, Function.windowed]
      split
      case isTrue => exact .error _
      case isFalse => exact .ok hcall
    case some w =>
      refine (Result.Alike.self _).bind fun _ _ _ => ?_
      exact (w.sheds_render h).bind fun g g' hg => .ok (((hcall.right _).append hg).right _)
termination_by structural f

theorem Window.sheds_render {cx : Context} (h : cx.qualified = true) (w : Window) :
    Sheds w.mentions (w.render cx) (w.render cx.unqualified) := by
  cases w
  case mk partition order =>
    rw [Window.render, Window.render]
    refine (Column.sheds_renderAll h none partition).bind fun columns columns' hcolumns => ?_
    refine (OrderItem.sheds_renderAll h order).bind fun items items' hitems => .ok ?_
    rw [hcolumns.isEmpty_eq, hitems.isEmpty_eq]
    exact ((hcolumns.joined_unless_empty _).right _).append (hitems.joined_unless_empty _)
termination_by structural w

theorem OrderItem.sheds_render {cx : Context} (h : cx.qualified = true) (o : OrderItem) :
    Sheds o.mentions (o.render cx) (o.render cx.unqualified) := by
  cases o
  case mk column direction =>
    rw [OrderItem.render, OrderItem.render]
    exact (column.sheds_render h none).bind fun f f' hf => .ok (hf.right _)
termination_by structural o

theorem OrderItem.sheds_renderAll {cx : Context} (h : cx.qualified = true) (os : List OrderItem) :
    ShedsAll (OrderItem.allMentions os) (OrderItem.renderAll cx os) (OrderItem.renderAll cx.unqualified os) := by
  cases os
  case nil => exact .ok .nil
  case cons a r =>
    rw [OrderItem.renderAll, OrderItem.renderAll]
    exact (a.sheds_render h).bind fun f f' hf => (OrderItem.sheds_renderAll h r).bind fun fs fs' hfs =>
      .ok (.cons hf hfs)
termination_by structural os

theorem Predicate.sheds_render {cx : Context} (h : cx.qualified = true) (p : Predicate) :
    Sheds p.mentions (p.render cx) (p.render cx.unqualified) := by
  cases p
  case always => exact .refl _
  case never => exact .refl _
  case comparison op a b =>
    exact Predicate.sheds_comparison (fun hint => a.sheds_render h hint) (fun hint => b.sheds_render h hint) op
  case inList column list =>
    exact Predicate.sheds_inList (fun hint => column.sheds_render h hint) fun hint => Column.sheds_renderAll h hint list
  case between column low high =>
    exact Predicate.sheds_between (fun hint => column.sheds_render h hint) (fun hint => low.sheds_render h hint)
      fun hint => high.sheds_render h hint
  case like a b caseSensitive =>
    exact Predicate.sheds_like (fun hint => a.sheds_render h hint) (fun hint => b.sheds_render h hint) caseSensitive
  case startsWith a b =>
    exact Predicate.sheds_startsWith (fun hint => a.sheds_render h hint) fun hint => b.sheds_render h hint
  case endsWith a b =>
    exact Predicate.sheds_endsWith (fun hint => a.sheds_render h hint) fun hint => b.sheds_render h hint
  case existsRow s =>
    rw [Predicate.render, Predicate.render]
    exact (s.sheds_render h).bind fun f f' hf => .ok (hf.parenthesised.left _)
  case and p q =>
    rw [Predicate.render, Predicate.render]
    exact (p.sheds_render h).bind fun f f' hf => (q.sheds_render h).bind fun g g' hg =>
      .ok ((hf.right _).append hg).parenthesised
  case or p q =>
    rw [Predicate.render, Predicate.render]
    exact (p.sheds_render h).bind fun f f' hf => (q.sheds_render h).bind fun g g' hg =>
      .ok ((hf.right _).append hg).parenthesised
  case not p =>
    rw [Predicate.render, Predicate.render]
    exact (p.sheds_render h).bind fun f f' hf => .ok (hf.parenthesised.left _)
termination_by structural p

theorem Table.sheds_render {cx : Context} (h : cx.qualified = true) (t : Table) :
    Sheds t.mentions (t.render cx) (t.render cx.unqualified) := by
  cases t
  case physical id aliasName => exact .refl _
  case join kind left right condition =>
    rw [Table.render, Table.render]
    exact (left.sheds_render h).bind fun f f' hf => (right.sheds_render h).bind fun g g' hg =>
      (condition.sheds_render h).bind fun e e' he => .ok ((((hf.right _).append hg).right _).append he)
  case subSelect s aliasName =>
    rw [Table.render, Table.render]
    exact (s.sheds_render h).bind fun f f' hf => .ok (hf.parenthesised.right _)
termination_by structural t

theorem Select.sheds_render {cx : Context} (h : cx.qualified = true) (s : Select) :
    Sheds s.mentions (s.render cx) (s.render cx.unqualified) := by
  cases s
  case mk table columns distinct predicate groups having items offset limit forUpdate =>
    rw [Select.render_eq, Select.render_eq]
    split
    case isTrue => exact .error _
    case isFalse =>
      refine (Result.Alike.self _).bind fun top _ htop => htop ▸ ?_
      refine (Column.sheds_renderAll h none columns).bind fun projected projected' hprojected => ?_
      refine (table.sheds_render h).bind fun source source' hsource => ?_
      refine (Predicate.sheds_renderAfter _ (predicate.sheds_render h)).bind fun filter filter' hfilter => ?_
      refine (Column.sheds_renderGrouping h groups).bind fun grouping grouping' hgrouping => ?_
      refine (Predicate.sheds_renderHaving h having).bind fun groupFilter groupFilter' hgroupFilter => ?_
      refine (OrderItem.sheds_renderOrder h items).bind fun order order' horder => ?_
      refine (Result.Alike.self _).bind fun window _ hwindow => hwindow ▸ ?_
      refine (Result.Alike.self _).bind fun lock _ hlock => hlock ▸ .ok ?_
      have hlist := (hprojected.joined ", ").left
        (words "SELECT " ++ (if distinct then words "DISTINCT " else []) ++ top)
      have hhead := (hlist.right (words " FROM ")).append hsource
      exact (((((hhead.append hfilter).append hgrouping).append hgroupFilter).append horder).right window).right lock
termination_by structural s

theorem Predicate.sheds_renderHaving {cx : Context} (h : cx.qualified = true) (p : Option Predicate) :
    Sheds (Predicate.havingMentions p) (Predicate.renderHaving cx p) (Predicate.renderHaving cx.unqualified p) := by
  cases p
  case none => exact .refl _
  case some p => exact Predicate.sheds_renderAfter " HAVING " (p.sheds_render h)
termination_by structural p

theorem Column.sheds_renderGrouping {cx : Context} (h : cx.qualified = true) (cs : Option (List Column)) :
    Sheds (Column.groupingMentions cs) (Column.renderGrouping cx cs) (Column.renderGrouping cx.unqualified cs) := by
  cases cs
  case none => exact .refl _
  case some cs =>
    rw [Column.renderGrouping, Column.renderGrouping]
    exact (Column.sheds_renderAll h none cs).bind fun fs fs' hfs => .ok (((hfs.joined ", ").left _).left _)
termination_by structural cs

theorem OrderItem.sheds_renderOrder {cx : Context} (h : cx.qualified = true) (os : Option (List OrderItem)) :
    Sheds (OrderItem.orderMentions os) (OrderItem.renderOrder cx os) (OrderItem.renderOrder cx.unqualified os) := by
  cases os
  case none => exact .refl _
  case some os =>
    rw [OrderItem.renderOrder, OrderItem.renderOrder]
    exact (OrderItem.sheds_renderAll h os).bind fun fs fs' hfs => .ok (((hfs.joined ", ").left _).left _)
termination_by structural os

end

end PolySql
