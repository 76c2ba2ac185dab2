import PolySql.Proofs.Column.Finite
import PolySql.Proofs.Sql.Params
import PolySql.Proofs.Sql.Rendering

namespace PolySql

open Fragment

def Piece.nonFinite? : Piece → Option Float
  | .param v | .literal v => v.nonFinite?
  | .words _ | .name _ => none

namespace Fragment

-- The NaNs and infinities among the parameters and literals of a fragment, in its order.
def strays (f : Fragment) : List Float :=
  f.filterMap Piece.nonFinite?

@[simp]
theorem strays_nil : strays [] = [] :=
  rfl

@[simp]
theorem strays_words (w : String) : (words w).strays = [] :=
  rfl

@[simp]
theorem strays_name (w : String) : (name w).strays = [] :=
  rfl

theorem strays_singleton (p : Piece) : strays [p] = p.nonFinite?.toList := by
  cases h : p.nonFinite? <;> simp [strays, h]

@[simp]
theorem strays_append (f g : Fragment) : (f ++ g).strays = f.strays ++ g.strays :=
  List.filterMap_append

@[simp]
theorem strays_parenthesised (f : Fragment) : (parenthesised f).strays = f.strays := by
  rw [parenthesised]
  exact (strays_append f _).trans (List.append_nil _)

@[simp]
theorem strays_joined (separator : String) (fs : List Fragment) : (joined separator fs).strays = fs.flatMap strays :=
  filterMap_joined (fun _ => rfl) separator fs

@[simp]
theorem strays_binary (f g : Fragment) (op : String) : (binary f op g).strays = f.strays ++ g.strays := by
  simp [binary]

end Fragment

-- The NaNs and infinities of a query and its parts that no column's type takes up when they are converted, in the order
-- of the text.

mutual

@[simp]
def Column.strays (cx : Context) (hint : Option ColumnType) : Column → List Float
  | .param v | .literal v => if hint.isSome then [] else v.nonFinite?.toList
  | .subSelect s => s.strays cx
  | .function f => f.strays cx
  | .physical .. | .star _ | .null => []

@[simp]
def Column.allStrays (cx : Context) (hint : Option ColumnType) : List Column → List Float
  | [] => []
  | a :: r => a.strays cx hint ++ Column.allStrays cx hint r

@[simp]
def Function.strays (cx : Context) : Function → List Float
  | ⟨kind, args, distinct, window⟩ =>
    let hint := (Function.mk kind args distinct none).argumentType? cx.catalog
    (if Function.rendersArguments kind then Column.allStrays cx hint args else []) ++
    match window with
    | none => []
    | some w => w.strays cx

@[simp]
def Window.strays (cx : Context) : Window → List Float
  | ⟨partition, order⟩ => Column.allStrays cx none partition ++ OrderItem.allStrays cx order

@[simp]
def OrderItem.strays (cx : Context) : OrderItem → List Float
  | ⟨column, _⟩ => column.strays cx none

@[simp]
def OrderItem.allStrays (cx : Context) : List OrderItem → List Float
  | [] => []
  | a :: r => a.strays cx ++ OrderItem.allStrays cx r

@[simp]
def Predicate.strays (cx : Context) : Predicate → List Float
  | .always | .never => []
  | .comparison _ a b => a.strays cx (b.type? cx.catalog) ++ b.strays cx (a.type? cx.catalog)
  | .inList column list =>
    if list.isEmpty then []
    else column.strays cx none ++ Column.allStrays cx (column.type? cx.catalog) list
  | .between column low high =>
    let hint := column.type? cx.catalog
    column.strays cx none ++ low.strays cx hint ++ high.strays cx hint
  | .like a b caseSensitive =>
    if caseSensitive || cx.supports .caseInsensitiveLike then
      a.strays cx (b.type? cx.catalog) ++ b.strays cx (a.type? cx.catalog)
    else a.strays cx none ++ b.strays cx none
  | .startsWith a b | .endsWith a b => a.strays cx none ++ b.strays cx none
  | .existsRow s => s.strays cx
  | .and p q | .or p q => p.strays cx ++ q.strays cx
  | .not p => p.strays cx

@[simp]
def Table.strays (cx : Context) : Table → List Float
  | .physical .. => []
  | .join _ left right condition => left.strays cx ++ right.strays cx ++ condition.strays cx
  | .subSelect s _ => s.strays cx

@[simp]
def Select.strays (cx : Context) : Select → List Float
  | ⟨table, columns, _, predicate, groups, having, items, _, _, _⟩ =>
    Column.allStrays cx none columns ++ table.strays cx ++ predicate.strays cx ++ Column.groupingStrays cx groups ++
      Predicate.havingStrays cx having ++ OrderItem.orderStrays cx items

@[simp]
def Predicate.havingStrays (cx : Context) : Option Predicate → List Float
  | none => []
  | some p => p.strays cx

@[simp]
def Column.groupingStrays (cx : Context) : Option (List Column) → List Float
  | none => []
  | some columns => Column.allStrays cx none columns

@[simp]
def OrderItem.orderStrays (cx : Context) : Option (List OrderItem) → List Float
  | none => []
  | some items => OrderItem.allStrays cx items

end

-- A computation that gives a fragment with just these NaNs and infinities, or fails.
abbrev Carries (xs : List Float) (r : Result Fragment) : Prop :=
  Yields (fun f => f.strays = xs) r

abbrev CarryAll (xs : List Float) (r : Result (List Fragment)) : Prop :=
  Yields (fun fs => fs.flatMap strays = xs) r

theorem carries_rowCount (what : String) (n : Int64) : Carries [] (Context.rowCount what n) := by
  intro f hf
  obtain ⟨-, rfl⟩ := Context.rowCount_eq_ok.mp hf
  rfl

theorem carries_limitClause (n : Int64) : Carries [] (limitClause n) :=
  (carries_rowCount _ n).bind fun _ h => .ok (by simp [h])

theorem carries_offsetClause (n : Int64) : Carries [] (offsetClause n) :=
  (carries_rowCount _ n).bind fun _ h => .ok (by simp [h])

namespace Select

theorem carries_renderTop (style : LimitStyle) (limit offset : Option Int64) :
    Carries [] (renderTop style limit offset) := by
  unfold renderTop
  split
  case h_1 n _ => exact (carries_rowCount _ n).bind fun _ h => .ok (by simp [h])
  case h_2 => exact .ok rfl

theorem carries_renderLimit (limit : Option Int64) : Carries [] (renderLimit limit) := by
  cases limit
  case none => exact .ok rfl
  case some n => exact (carries_limitClause n).bind fun _ h => .ok (by simp [h])

theorem carries_renderLimitOffset (unbounded : Option String) (limit offset : Option Int64) :
    Carries [] (renderLimitOffset unbounded limit offset) := by
  refine (carries_renderLimit limit).bind fun head hhead => ?_
  cases offset
  case none => exact .ok hhead
  case some n =>
    refine (carries_offsetClause n).bind fun f hf => .ok ?_
    cases limit <;> cases unbounded <;> simp [hhead, hf]

theorem carries_renderOffsetRows (requiresOrder : Bool) (offset : Option Int64) :
    Carries [] (renderOffsetRows requiresOrder offset) := by
  cases offset
  case none => cases requiresOrder <;> exact .ok rfl
  case some n => exact (carries_offsetClause n).bind fun _ h => .ok (by simp [h])

theorem carries_renderFetch (limit : Option Int64) : Carries [] (renderFetch limit) := by
  cases limit
  case none => exact .ok rfl
  case some n => exact (carries_rowCount _ n).bind fun _ h => .ok (by simp [h])

theorem carries_renderWindow (style : LimitStyle) (ordered : Bool) (limit offset : Option Int64) :
    Carries [] (renderWindow style ordered limit offset) := by
  cases style
  case limitOffset unbounded => exact carries_renderLimitOffset unbounded limit offset
  case offsetFetch requiresOrder top =>
    rw [renderWindow, renderOffsetFetch]
    split
    case isTrue => exact .ok rfl
    case isFalse =>
      split
      case isTrue => exact .ok rfl
      case isFalse =>
        refine (carries_renderOffsetRows requiresOrder offset).bind fun rows hrows => ?_
        refine (carries_renderFetch limit).bind fun f hf => .ok ?_
        split <;> simp [hrows, hf]

theorem carries_renderForUpdate (cx : Context) (forUpdate : Bool) : Carries [] (renderForUpdate cx forUpdate) := by
  cases forUpdate
  case false => exact .ok rfl
  case true => exact (Yields.trivial _).bind fun _ _ => .ok rfl

end Select

section

variable {cx : Context}

@[simp]
theorem strays_columnName (owner column : String) : Fragment.strays (cx.columnName owner column) = [] := by
  rw [Context.columnName]
  split <;> rfl

@[simp]
theorem strays_withSuffix (f : Fragment) : (cx.withSuffix f).strays = f.strays := by
  rw [Context.withSuffix]
  split <;> simp

@[simp]
theorem strays_withStart (f : Fragment) : (cx.withStart f).strays = f.strays := by
  rw [Context.withStart]
  split <;> simp

@[simp]
theorem strays_aliased (f : Fragment) (aliasName : String) : (Table.aliased cx f aliasName).strays = f.strays := by
  rw [Table.aliased]
  exact (strays_append f _).trans (List.append_nil _)

namespace Function

theorem strays_applied (distinct : Bool) (args : List Fragment) (name : String) :
    (call.applied distinct args (words name)).strays = args.flatMap Fragment.strays := by
  rw [call.applied]
  split <;> simp

theorem strays_call {kind : FunctionKind} (hkind : rendersArguments kind = true) (distinct : Bool)
    (args : List Fragment) : (call cx kind distinct args).strays = args.flatMap Fragment.strays := by
  unfold call
  split
  case h_1 => nomatch hkind
  case h_2 =>
    split
    case h_1 => simp
    case h_2 => exact strays_applied distinct args _
  case h_3 =>
    split
    case isTrue h => simp_all
    case isFalse => exact strays_applied distinct args _
  case h_4 => exact strays_applied distinct args _

theorem carries_call (distinct : Bool) {kind : FunctionKind} {args : List Column}
    (h : CarryAll (Column.allStrays cx ((Function.mk kind args distinct none).argumentType? cx.catalog) args)
      (Column.renderAll cx ((Function.mk kind args distinct none).argumentType? cx.catalog) args)) :
    Carries ((Function.mk kind args distinct none).strays cx)
      (renderArguments cx kind args distinct >>= fun fs => return call cx kind distinct fs) := by
  unfold renderArguments
  rw [Function.strays, List.append_nil]
  split
  case isTrue hkind => exact h.bind fun fs hfs => .ok ((strays_call hkind distinct fs).trans hfs)
  case isFalse hkind =>
    cases kind
    case currentTimestamp => exact .ok rfl
    all_goals exact absurd rfl hkind

end Function

theorem Comparison.strays_of_nullTest? {op : Comparison} {isNegated : Bool} {a b c : Column}
    (h : op.nullTest? a b = some (isNegated, c)) :
    a.strays cx (b.type? cx.catalog) ++ b.strays cx (a.type? cx.catalog) = c.strays cx none := by
  have hnull {x : Column} (h : x.isNull = true) (hint : Option ColumnType) :
      x.strays cx hint = [] ∧ x.type? cx.catalog = none := by
    cases x
    case null => exact ⟨rfl, rfl⟩
    all_goals nomatch h
  cases op <;> simp only [nullTest?, reduceCtorEq] at h
  all_goals
    split_ifs at h with hb ha <;> cases h
    · rw [(hnull hb _).1, (hnull hb none).2, List.append_nil]
    · rw [(hnull ha _).1, (hnull ha none).2, List.nil_append]

theorem Context.strays_of_stored {hint : Option ColumnType} {v x : Value} (h : cx.stored hint v = .ok x) :
    x.nonFinite?.toList = if hint.isSome then [] else v.nonFinite?.toList := by
  rw [nonFinite?_of_stored h]
  split <;> rfl

namespace Predicate

variable {a b c : Column} (ha : ∀ hint, Carries (a.strays cx hint) (a.render cx hint))

include ha

theorem carries_inList
    (hlist : ∀ hint, CarryAll (Column.allStrays cx hint list) (Column.renderAll cx hint list)) :
    Carries ((inList a list).strays cx) ((inList a list).render cx) := by
  cases list
  case nil =>
    rw [Predicate.render]
    exact .ok rfl
  case cons x r =>
    rw [Predicate.render]
    · exact (ha _).bind fun _ hc => (hlist _).bind fun _ h => .ok (by simp [hc, h])
    · simp

variable (hb : ∀ hint, Carries (b.strays cx hint) (b.render cx hint))

include hb

theorem carries_comparison (op : Comparison) :
    Carries ((comparison op a b).strays cx) ((comparison op a b).render cx) := by
  rcases hn : op.nullTest? a b with _ | ⟨isNegated, c⟩
  case none =>
    rw [render_comparison_of_none hn]
    exact (ha _).bind fun _ hf => (hb _).bind fun _ hg => .ok (by simp [hf, hg])
  case some =>
    have hc : Carries (c.strays cx none) (c.render cx none) := by
      rcases Comparison.eq_of_nullTest? hn with rfl | rfl
      · exact ha none
      · exact hb none
    rw [render_comparison_of_some hn, Predicate.strays, Comparison.strays_of_nullTest? hn]
    exact hc.bind fun _ h => .ok (by simp [h])

theorem carries_between (hc : ∀ hint, Carries (c.strays cx hint) (c.render cx hint)) :
    Carries ((between a b c).strays cx) ((between a b c).render cx) := by
  rw [Predicate.render]
  refine (ha _).bind fun _ h => (hb _).bind fun _ hl => (hc _).bind fun _ hh => .ok ?_
  simp [h, hl, hh]

theorem carries_like (caseSensitive : Bool) :
    Carries ((like a b caseSensitive).strays cx) ((like a b caseSensitive).render cx) := by
  rw [Predicate.render, Predicate.strays]
  split
  case isTrue => exact (ha _).bind fun _ hf => (hb _).bind fun _ hg => .ok (by simp [hf, hg])
  case isFalse => exact (ha _).bind fun _ hf => (hb _).bind fun _ hg => .ok (by simp [hf, hg])

theorem carries_startsWith : Carries ((startsWith a b).strays cx) ((startsWith a b).render cx) := by
  rw [Predicate.render]
  exact (ha _).bind fun _ hf => (hb _).bind fun _ hg => .ok (by simp [hf, hg])

theorem carries_endsWith : Carries ((endsWith a b).strays cx) ((endsWith a b).render cx) := by
  rw [Predicate.render]
  exact (ha _).bind fun _ hf => (hb _).bind fun _ hg => .ok (by simp [hf, hg])

end Predicate

theorem Predicate.carries_renderAfter {p : Predicate} (opening : String) (h : Carries (p.strays cx) (p.render cx)) :
    Carries (p.strays cx) (p.renderAfter cx opening) := by
  unfold renderAfter
  split
  case isTrue halways =>
    cases p
    case always => exact .ok rfl
    all_goals cases halways
  case isFalse => exact h.bind fun _ h => .ok (by simp [h])

end

mutual

theorem Column.carries_render (cx : Context) (hint : Option ColumnType) (c : Column) :
    Carries (c.strays cx hint) (c.render cx hint) := by
  cases c
  case physical id aliasName =>
    rw [Column.render]
    exact .ok (strays_columnName _ _)
  case param v =>
    rw [Column.render, Column.strays]
    exact (Yields.self _).bind fun x hx => .ok ((strays_singleton _).trans (Context.strays_of_stored hx))
  case literal v =>
    rw [Column.render, Column.strays]
    exact (Yields.self _).bind fun x hx => .ok ((strays_singleton _).trans (Context.strays_of_stored hx))
  case subSelect s =>
    rw [Column.render]
    exact (s.carries_render cx).bind fun _ h => .ok ((strays_parenthesised _).trans h)
  case star table =>
    cases table <;> exact .ok rfl
  case null =>
    rw [Column.render]
    exact .ok rfl
  case function f =>
    rw [Column.render]
    exact f.carries_render cx
termination_by structural c

theorem Column.carryAll_renderAll (cx : Context) (hint : Option ColumnType) (cs : List Column) :
    CarryAll (Column.allStrays cx hint cs) (Column.renderAll cx hint cs) := by
  cases cs
  case nil =>
    rw [Column.renderAll]
    exact .ok rfl
  case cons a r =>
    rw [Column.renderAll]
    refine (a.carries_render cx hint).bind fun _ hf => ?_
    exact (Column.carryAll_renderAll cx hint r).bind fun _ h => .ok (by simp [Column.allStrays, hf, h])
termination_by structural cs

theorem Function.carries_render (cx : Context) (f : Function) : Carries (f.strays cx) (f.render cx) := by
  cases f
  case mk kind args distinct window =>
    have hargs := Column.carryAll_renderAll cx ((Function.mk kind args distinct none).argumentType? cx.catalog) args
    rw [Function.render_eq]
    refine (Function.carries_call distinct hargs).bind fun f hf => ?_
    cases window
    case none =>
      rw [Function.windowed]
      split
      case isTrue => exact .error _
      case isFalse => exact .ok (by simpa [Function.strays] using hf)
    case some w =>
      refine (Yields.trivial _).bind fun _ _ => (w.carries_render cx).bind fun _ hw => .ok ?_
      simp [hf, hw]
termination_by structural f

theorem Window.carries_render (cx : Context) (w : Window) : Carries (w.strays cx) (w.render cx) := by
  cases w
  case mk partition order =>
    rw [Window.render]
    refine (Column.carryAll_renderAll cx none partition).bind fun columns hcolumns => ?_
    refine (OrderItem.carryAll_renderAll cx order).bind fun items hitems => .ok ?_
    rw [Window.strays, ← hcolumns, ← hitems]
    cases columns <;> cases items <;> simp [orderBy]
termination_by structural w

theorem OrderItem.carries_render (cx : Context) (o : OrderItem) : Carries (o.strays cx) (o.render cx) := by
  cases o
  case mk column direction =>
    rw [OrderItem.render]
    exact (column.carries_render cx none).bind fun _ h => .ok (by simp [h])
termination_by structural o

theorem OrderItem.carryAll_renderAll (cx : Context) (os : List OrderItem) :
    CarryAll (OrderItem.allStrays cx os) (OrderItem.renderAll cx os) := by
  cases os
  case nil =>
    rw [OrderItem.renderAll]
    exact .ok rfl
  case cons a r =>
    rw [OrderItem.renderAll]
    refine (a.carries_render cx).bind fun _ hf => ?_
    exact (OrderItem.carryAll_renderAll cx r).bind fun _ h => .ok (by simp [OrderItem.allStrays, hf, h])
termination_by structural os

theorem Predicate.carries_render (cx : Context) (p : Predicate) : Carries (p.strays cx) (p.render cx) := by
  cases p
  case always =>
    rw [Predicate.render]
    exact .ok rfl
  case never =>
    rw [Predicate.render]
    exact .ok rfl
  case comparison op a b =>
    exact Predicate.carries_comparison (fun hint => a.carries_render cx hint) (fun hint => b.carries_render cx hint) op
  case inList column list =>
    exact Predicate.carries_inList (fun hint => column.carries_render cx hint)
      (fun hint => Column.carryAll_renderAll cx hint list)
  case between column low high =>
    exact Predicate.carries_between (fun hint => column.carries_render cx hint)
      (fun hint => low.carries_render cx hint) (fun hint => high.carries_render cx hint)
  case like a b caseSensitive =>
    exact Predicate.carries_like (fun hint => a.carries_render cx hint) (fun hint => b.carries_render cx hint)
      caseSensitive
  case startsWith a b =>
    exact Predicate.carries_startsWith (fun hint => a.carries_render cx hint) (fun hint => b.carries_render cx hint)
  case endsWith a b =>
    exact Predicate.carries_endsWith (fun hint => a.carries_render cx hint) (fun hint => b.carries_render cx hint)
  case existsRow s =>
    rw [Predicate.render]
    exact (s.carries_render cx).bind fun _ h => .ok (by simp [h])
  case and p q =>
    rw [Predicate.render]
    refine (p.carries_render cx).bind fun _ hp => (q.carries_render cx).bind fun _ hq => .ok ?_
    simp [hp, hq]
  case or p q =>
    rw [Predicate.render]
    refine (p.carries_render cx).bind fun _ hp => (q.carries_render cx).bind fun _ hq => .ok ?_
    simp [hp, hq]
  case not p =>
    rw [Predicate.render]
    exact (p.carries_render cx).bind fun _ hp => .ok (by simp [hp])
termination_by structural p

theorem Table.carries_render (cx : Context) (t : Table) : Carries (t.strays cx) (t.render cx) := by
  cases t
  case physical id aliasName =>
    cases aliasName
    case none =>
      rw [Table.render]
      exact .ok rfl
    case some a =>
      rw [Table.render]
      split
      case isTrue => exact .ok rfl
      case isFalse => exact .ok (strays_aliased _ a)
  case join kind left right condition =>
    rw [Table.render]
    refine (left.carries_render cx).bind fun _ hl => (right.carries_render cx).bind fun _ hr => ?_
    exact (condition.carries_render cx).bind fun _ hp => .ok (by simp [hl, hr, hp])
  case subSelect s aliasName =>
    rw [Table.render]
    exact (s.carries_render cx).bind fun _ h => .ok (by simp [h])
termination_by structural t

theorem Select.carries_render (cx : Context) (s : Select) : Carries (s.strays cx) (s.render cx) := by
  cases s
  case mk table columns distinct predicate groups having items offset limit forUpdate =>
    rw [Select.render_eq]
    split
    case isTrue => exact .error _
    case isFalse =>
      refine (Select.carries_renderTop _ limit offset).bind fun top htop => ?_
      refine (Column.carryAll_renderAll cx none columns).bind fun projected hprojected => ?_
      refine (table.carries_render cx).bind fun source hsource => ?_
      refine (predicate.carries_renderAfter _ (predicate.carries_render cx)).bind fun _ hfilter => ?_
      refine (Column.carries_renderGrouping cx groups).bind fun _ hgrouping => ?_
      refine (Predicate.carries_renderHaving cx having).bind fun _ hhaving => ?_
      refine (OrderItem.carries_renderOrder cx items).bind fun _ horder => ?_
      refine (Select.carries_renderWindow _ _ limit offset).bind fun _ hwindow => ?_
      refine (Select.carries_renderForUpdate cx forUpdate).bind fun _ hlock => .ok ?_
      have hdistinct : Fragment.strays (if distinct then words "DISTINCT " else []) = [] := by
        split <;> rfl
      simp [hdistinct, htop, hprojected, hsource, hfilter, hgrouping, hhaving, horder, hwindow, hlock]
termination_by structural s

theorem Predicate.carries_renderHaving (cx : Context) (p : Option Predicate) :
    Carries (Predicate.havingStrays cx p) (Predicate.renderHaving cx p) := by
  cases p
  case none =>
    rw [Predicate.renderHaving]
    exact .ok rfl
  case some p => exact Predicate.carries_renderAfter " HAVING " (p.carries_render cx)
termination_by structural p

theorem Column.carries_renderGrouping (cx : Context) (cs : Option (List Column)) :
    Carries (Column.groupingStrays cx cs) (Column.renderGrouping cx cs) := by
  cases cs
  case none =>
    rw [Column.renderGrouping]
    exact .ok rfl
  case some cs =>
    rw [Column.renderGrouping]
    exact (Column.carryAll_renderAll cx none cs).bind fun _ h => .ok (by simp [groupBy, Column.groupingStrays, h])
termination_by structural cs

theorem OrderItem.carries_renderOrder (cx : Context) (os : Option (List OrderItem)) :
    Carries (OrderItem.orderStrays cx os) (OrderItem.renderOrder cx os) := by
  cases os
  case none =>
    rw [OrderItem.renderOrder]
    exact .ok rfl
  case some os =>
    rw [OrderItem.renderOrder]
    exact (OrderItem.carryAll_renderAll cx os).bind fun _ h => .ok (by simp [orderBy, OrderItem.orderStrays, h])
termination_by structural os

end

end PolySql
