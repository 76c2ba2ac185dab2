import PolySql.Proofs.Sql.Gaps
import PolySql.Proofs.Sql.Rendering

namespace PolySql

open Fragment

-- Does a call of the function need arguments?
def FunctionKind.takesArguments : FunctionKind → Bool
  | .count | .currentTimestamp | .rowNumber => false
  | _ => true

def Function.callHollows (kind : FunctionKind) (args : List (List Hollow)) : List Hollow :=
  if kind.takesArguments then Hollow.call.ofList args
  else if Function.rendersArguments kind then args.flatten
  else []

-- What is hollow in the text of a query and its parts, in its order. Empty lists elsewhere are not written, or they are
-- errors.

mutual

def Column.hollows : Column → List Hollow
  | .subSelect s => s.hollows
  | .function f => f.hollows
  | .physical .. | .param _ | .literal _ | .star _ | .null => []

def Column.allHollows : List Column → List (List Hollow)
  | [] => []
  | a :: r => a.hollows :: Column.allHollows r

def Function.hollows : Function → List Hollow
  | ⟨kind, args, _, window⟩ => Function.callHollows kind (Column.allHollows args) ++
    match window with
    | none => []
    | some w => w.hollows

def Window.hollows : Window → List Hollow
  | ⟨partition, order⟩ => (Column.allHollows partition).flatten ++ (OrderItem.allHollows order).flatten

def OrderItem.hollows : OrderItem → List Hollow
  | ⟨column, _⟩ => column.hollows

def OrderItem.allHollows : List OrderItem → List (List Hollow)
  | [] => []
  | a :: r => a.hollows :: OrderItem.allHollows r

def Predicate.hollows : Predicate → List Hollow
  | .always | .never => []
  | .comparison _ a b | .like a b _ | .startsWith a b | .endsWith a b => a.hollows ++ b.hollows
  | .inList column list => if list.isEmpty then [] else column.hollows ++ (Column.allHollows list).flatten
  | .between column low high => column.hollows ++ low.hollows ++ high.hollows
  | .existsRow s => s.hollows
  | .and p q | .or p q => p.hollows ++ q.hollows
  | .not p => p.hollows

def Table.hollows : Table → List Hollow
  | .physical .. => []
  | .join _ left right condition => left.hollows ++ right.hollows ++ condition.hollows
  | .subSelect s _ => s.hollows

def Select.hollows : Select → List Hollow
  | ⟨table, columns, _, predicate, groups, having, items, _, _, _⟩ =>
    (Column.allHollows columns).flatten ++ table.hollows ++ predicate.hollows ++ Column.groupingHollows groups ++
      Predicate.havingHollows having ++ OrderItem.orderHollows items

def Predicate.havingHollows : Option Predicate → List Hollow
  | none => []
  | some p => p.hollows

def Column.groupingHollows : Option (List Column) → List Hollow
  | none => []
  | some columns => Hollow.grouping.ofList (Column.allHollows columns)

def OrderItem.orderHollows : Option (List OrderItem) → List Hollow
  | none => []
  | some items => Hollow.ordering.ofList (OrderItem.allHollows items)

end

theorem Column.allHollows_ne_nil {cs : List Column} (h : cs ≠ []) : Column.allHollows cs ≠ [] := by
  cases cs
  case nil => exact absurd rfl h
  case cons => nofun

-- Of its own words a dialect makes no lists, apart from those of an insert with default values only.
structure Dialect.Simple (d : Dialect) : Prop where
  function : kind ≠ .rowNumber → Fills d (words (d.functionName kind)) []
  rowNumber : ∀ due, Reads d (.list due) (words (d.functionName .rowNumber)) [] .bare
  truth : Fills d (words d.trueText) [] ∧ Fills d (words d.falseText) []
  aliasing : Reads d (.list none) (words d.aliasSeparator) [] (.list none)
  unbounded : ∀ all ∈ d.limitStyle.unbounded?, Fills d (words all) []
  defaults : ∀ tail ∈ d.defaultValues, ∃ gaps, Reads d (.list none) (words tail) gaps (.list none)

theorem Dialect.simple_of_mem_builtins {d : Dialect} (hd : d ∈ builtins) : d.Simple where
  function {kind} hkind due := by
    have hname : ∀ d ∈ builtins, d.lexis.cues (d.functionName kind) = [.item] := by
      cases kind
      case rowNumber => exact absurd rfl hkind
      all_goals decide
    rw [reads_words, hname d hd]
    rfl
  rowNumber due := by
    have hname : ∀ d ∈ builtins, d.lexis.cues (d.functionName .rowNumber) = [.bare] := by decide
    rw [reads_words, hname d hd]
    rfl
  truth := by
    have htruth : ∀ d ∈ builtins, ∀ due, (Survey.list due).scan (d.lexis.cues d.trueText) = ([], .list none) ∧
        (Survey.list due).scan (d.lexis.cues d.falseText) = ([], .list none) := by
      decide
    exact ⟨fun due => reads_words.mpr (htruth d hd due).1, fun due => reads_words.mpr (htruth d hd due).2⟩
  aliasing := by
    have halias : ∀ d ∈ builtins, (Survey.list none).scan (d.lexis.cues d.aliasSeparator) = ([], .list none) := by
      decide
    exact reads_words.mpr (halias d hd)
  unbounded all hall due := by
    have hall' : ∀ d ∈ builtins, ∀ all ∈ d.limitStyle.unbounded?, ∀ due,
        (Survey.list due).scan (d.lexis.cues all) = ([], .list none) := by
      decide
    exact reads_words.mpr (hall' d hd all hall due)
  defaults tail htail := by
    have htail' : ∀ d ∈ builtins, ∀ tail ∈ d.defaultValues,
        ((Survey.list none).scan (d.lexis.cues tail)).2 = .list none := by
      decide
    exact ⟨_, reads_words.mpr (Prod.ext rfl (htail' d hd tail htail))⟩

theorem keeps_distinct (d : Dialect) (distinct : Bool) : Keeps d (if distinct then words "DISTINCT " else []) := by
  cases distinct
  case false => exact .nil d
  case true => exact .words d (by decide)

-- The bounds on the number of rows.

theorem fills_rowCount (d : Dialect) (what : String) (n : Int64) :
    Yields (Fills d · []) (Context.rowCount what n) := by
  unfold Context.rowCount
  split
  case isTrue => exact .error _
  case isFalse => exact .ok (.param d _)

theorem ends_limitClause (d : Dialect) (n : Int64) : Yields (Ends d · []) (limitClause n) :=
  (fills_rowCount d _ n).bind fun _ h => .ok (.after none (by decide) h)

theorem ends_offsetClause (d : Dialect) (n : Int64) : Yields (Ends d · []) (offsetClause n) :=
  (fills_rowCount d _ n).bind fun _ h => .ok (.after none (by decide) h)

-- A limit in parentheses ahead of a list.
theorem keeps_topCount (d : Dialect) (n : Int64) :
    Yields (fun f => Keeps d (words "TOP (" ++ f ++ words ") ")) (Context.limitCount n) := by
  unfold Context.limitCount Context.rowCount
  split
  case isTrue => exact .error _
  case isFalse =>
    refine .ok fun due => ?_
    have hopening : ∀ l ∈ Lexis.vendors, ∀ due, (Survey.list due).scan (l.cues "TOP (") = ([], .top due) := by decide
    have hclosing : ∀ l ∈ Lexis.vendors, ∀ due, (Survey.top due).scan (l.cues ") ") = ([], .list due) := by decide
    have hparam : Reads d (.top due) [.param (.int n)] [] (.top due) := rfl
    exact ((Reads.words fun l hl => hopening l hl due).append hparam).append (.words fun l hl => hclosing l hl due)

namespace Select

theorem keeps_renderTop (d : Dialect) (style : LimitStyle) (limit offset : Option Int64) :
    Yields (Keeps d) (renderTop style limit offset) := by
  unfold renderTop
  split
  case h_1 n _ => exact (keeps_topCount d n).bind fun f h => .ok h
  case h_2 => exact .ok (.nil d)

theorem adds_renderLimit (d : Dialect) (limit : Option Int64) : Yields (Adds d · []) (renderLimit limit) := by
  cases limit
  case none => exact .ok (.nil d)
  case some n => exact (ends_limitClause d n).bind fun _ h => .ok h.blank.adds

theorem adds_renderLimitOffset {d : Dialect} {unbounded : Option String} (limit offset : Option Int64)
    (hu : ∀ all ∈ unbounded, Fills d (words all) []) :
    Yields (Adds d · []) (renderLimitOffset unbounded limit offset) := by
  refine (adds_renderLimit d limit).bind fun head hhead => ?_
  cases offset
  case none => exact .ok hhead
  case some n =>
    refine (ends_offsetClause d n).bind fun f hf => .ok ?_
    rw [List.append_assoc]
    refine (hhead.append_nil ?_).append_nil hf.blank.adds
    cases limit
    case some => exact .nil d
    case none =>
      cases unbounded
      case none => exact .nil d
      case some all => exact .after none (by decide) ((hu all rfl).heads _)

theorem adds_renderOffsetRows (d : Dialect) (requiresOrder : Bool) (offset : Option Int64) :
    Yields (Adds d · []) (renderOffsetRows requiresOrder offset) := by
  cases offset
  case none =>
    cases requiresOrder
    case false => exact .ok (.nil d)
    case true => exact .ok (Ends.words d (by decide)).adds
  case some n =>
    have hrows : Fills d (words " ROWS") [] := .words _ (by decide)
    exact (ends_offsetClause d n).bind fun f hf => .ok (hf.blank.append (hrows none)).adds

theorem adds_renderFetch (d : Dialect) (limit : Option Int64) : Yields (Adds d · []) (renderFetch limit) := by
  cases limit
  case none => exact .ok (.nil d)
  case some n =>
    refine (fills_rowCount d _ n).bind fun f hf => .ok ?_
    rw [List.append_assoc]
    exact .after none (by decide) ((hf.before (by decide)).heads _)

theorem adds_renderOffsetFetch (d : Dialect) (requiresOrder ordered : Bool) (limit offset : Option Int64) :
    Yields (Adds d · []) (renderOffsetFetch requiresOrder ordered limit offset) := by
  have horder : Adds d (if requiresOrder && !ordered then words " ORDER BY (SELECT NULL)" else []) [] := by
    split
    case isTrue => exact (Ends.words d (by decide)).adds
    case isFalse => exact .nil d
  unfold renderOffsetFetch
  split
  case isTrue => exact .ok (.nil d)
  case isFalse =>
    refine (adds_renderOffsetRows d requiresOrder offset).bind fun rows hrows => ?_
    exact (adds_renderFetch d limit).bind fun f hf => .ok ((horder.append_nil hrows).append_nil hf)

theorem adds_renderWindow {d : Dialect} (hd : d.Simple) (ordered : Bool) (limit offset : Option Int64) :
    Yields (Adds d · []) (renderWindow d.limitStyle ordered limit offset) := by
  have hu := hd.unbounded
  cases hs : d.limitStyle
  case limitOffset unbounded =>
    rw [hs] at hu
    exact adds_renderLimitOffset limit offset hu
  case offsetFetch =>
    rw [renderWindow]
    split
    case isTrue => exact .ok (.nil d)
    case isFalse => exact adds_renderOffsetFetch d _ _ _ _

theorem adds_renderForUpdate (cx : Context) (forUpdate : Bool) :
    Yields (Adds cx.dialect · []) (renderForUpdate cx forUpdate) := by
  cases forUpdate
  case false => exact .ok (.nil _)
  case true => exact (Yields.trivial _).bind fun _ _ => .ok (Ends.words _ (by decide)).adds

end Select

theorem fills_columnName (cx : Context) (owner column : String) : Fills cx.dialect (cx.columnName owner column) [] := by
  rw [Context.columnName]
  split
  case isTrue => exact ((Fills.name _ owner).before (w := ".") (by decide)).append (.name _ column)
  case isFalse => exact .name _ column

section

variable {cx : Context} {f g : Fragment} {hs hs' : List Hollow}

theorem fills_withSuffix (h : Fills cx.dialect f hs) : Fills cx.dialect (cx.withSuffix f) hs := by
  rw [Context.withSuffix]
  cases cx.dialect.concatStyle
  case operator => exact h.before (by decide)
  case function =>
    have hopens : Opens cx.dialect (words "CONCAT(") (some .parenthesis) := .words _ (by decide)
    simpa using (h.after hopens).heads.append_ends (.words _ (w := ", '%')") (by decide))

theorem fills_withStart (h : Fills cx.dialect f hs) : Fills cx.dialect (cx.withStart f) hs := by
  rw [Context.withStart]
  cases cx.dialect.concatStyle
  case operator => exact .after (.words _ (o := none) (by decide)) h
  case function => exact .closed (h.after (.words _ (o := some .comma) (by decide))).heads

theorem fills_aliased (hd : cx.dialect.Simple) (h : Fills cx.dialect f hs) (aliasName : String) :
    Fills cx.dialect (Table.aliased cx f aliasName) hs := by
  intro due
  have halias : Reads cx.dialect (.list none) (words cx.dialect.aliasSeparator ++ name aliasName) [] (.list none) :=
    hd.aliasing.append (Fills.name _ aliasName none)
  simpa [Table.aliased, words, name] using (h due).append halias

namespace Function

variable {args : List Fragment} {hss : List (List Hollow)} {kind : FunctionKind}

-- The arguments of a call, where there must be some.
theorem fills_applied (hd : cx.dialect.Simple) (hkind : kind ≠ .rowNumber) (distinct : Bool)
    (h : FillAll cx.dialect args hss) :
    Fills cx.dialect (call.applied distinct args (words (cx.dialect.functionName kind))) (Hollow.call.ofList hss) := by
  have hopens : Opens cx.dialect (words "(" ++ if distinct then words "DISTINCT " else []) (some .parenthesis) :=
    .append (.parenthesis _) (keeps_distinct _ distinct)
  have hlist := Fills.closed (.after hopens (h.finds .call Survey.separates_comma))
  simpa [call.applied] using (hd.function hkind).append hlist

-- The words after which there may be nothing in parentheses.
theorem fills_applied_rowNumber (hd : cx.dialect.Simple) (distinct : Bool) (h : FillAll cx.dialect args hss) :
    Fills cx.dialect (call.applied distinct args (words (cx.dialect.functionName .rowNumber))) hss.flatten := by
  intro due
  have hopening : Reads cx.dialect .bare (words "(") [] (.list none) := .words (by decide)
  have hlist : Reads cx.dialect (.list none) (joined ", " args) (hss.flatten.map Hollow.opener) (.list none) := by
    cases h
    case nil => rfl
    case cons hf hfs => exact FillAll.joined Survey.separates_comma (.cons hf hfs) nofun none
  have hclosing : Reads cx.dialect (.list none) (words ")") [] (.list none) := .words (by decide)
  simpa [call.applied] using
    ((((hd.rowNumber due).append hopening).append (keeps_distinct _ distinct none)).append hlist).append hclosing

theorem fills_call (hd : cx.dialect.Simple) (hkind : rendersArguments kind = true) (distinct : Bool)
    (h : FillAll cx.dialect args hss) :
    Fills cx.dialect (call cx kind distinct args) (callHollows kind hss) := by
  have happlied (hkind : kind ≠ .rowNumber) := fills_applied hd hkind distinct h
  cases kind
  case currentTimestamp => nomatch hkind
  case rowNumber => exact fills_applied_rowNumber hd distinct h
  case count =>
    cases h
    case nil => exact (hd.function nofun : Fills _ (words (cx.dialect.functionName .count)) []).before (by decide)
    case cons => exact happlied nofun
  case concat =>
    rw [call]
    split
    case h_1 => exact .parenthesised (h.finds (o := none) .call (by decide))
    case h_2 => exact happlied nofun
  all_goals exact happlied nofun

-- The current time is written without its arguments.
theorem yields_call (hd : cx.dialect.Simple) (distinct : Bool) {args : List Column}
    (h : Yields (FillAll cx.dialect · (Column.allHollows args))
      (Column.renderAll cx ((Function.mk kind args distinct none).argumentType? cx.catalog) args)) :
    Yields (Fills cx.dialect · (callHollows kind (Column.allHollows args)))
      (renderArguments cx kind args distinct >>= fun fs => return call cx kind distinct fs) := by
  unfold renderArguments
  split
  case isTrue hkind => exact h.bind fun _ h => .ok (fills_call hd hkind distinct h)
  case isFalse hkind =>
    cases kind
    case currentTimestamp => exact .ok (hd.function nofun)
    all_goals exact absurd rfl hkind

end Function

omit cx in
theorem Comparison.hollows_of_nullTest? {op : Comparison} {isNegated : Bool}
    (h : op.nullTest? a b = some (isNegated, c)) : a.hollows ++ b.hollows = c.hollows := by
  have hnull {x : Column} (h : x.isNull = true) : x.hollows = [] := by
    cases x
    case null => rfl
    all_goals nomatch h
  cases op <;> simp only [nullTest?, reduceCtorEq] at h
  all_goals
    split_ifs at h with hb ha <;> cases h
    · rw [hnull hb, List.append_nil]
    · rw [hnull ha, List.nil_append]

namespace Predicate

variable {a b c : Column} (ha : ∀ hint, Yields (Fills cx.dialect · a.hollows) (a.render cx hint))

include ha

theorem fills_inList (hd : cx.dialect.Simple)
    (hlist : ∀ hint, Yields (FillAll cx.dialect · (Column.allHollows list)) (Column.renderAll cx hint list)) :
    Yields (Fills cx.dialect · (inList a list).hollows) ((inList a list).render cx) := by
  cases list
  case nil =>
    rw [Predicate.render]
    exact .ok hd.truth.2
  case cons x r =>
    rw [Predicate.render]
    · refine (ha _).bind fun _ hc => (hlist _).bind fun _ h => .ok ?_
      have hitems : Fills cx.dialect (joined ", " _) _ := h.joined Survey.separates_comma nofun
      exact hc.between (by decide) (.parenthesised (hitems.heads _))
    · simp

variable (hb : ∀ hint, Yields (Fills cx.dialect · b.hollows) (b.render cx hint))

include hb

theorem fills_comparison (op : Comparison) :
    Yields (Fills cx.dialect · (comparison op a b).hollows) ((comparison op a b).render cx) := by
  rcases hn : op.nullTest? a b with _ | ⟨isNegated, c⟩
  case none =>
    have hop : Survey.Takes (" " ++ op.text ++ " ") none := by
      cases op <;> decide
    rw [render_comparison_of_none hn]
    exact (ha _).bind fun _ hf => (hb _).bind fun _ hg => .ok (hf.between hop hg)
  case some =>
    have hw : Survey.Takes (nullTest isNegated) none := by
      cases isNegated <;> decide
    have hc : Yields (Fills cx.dialect · c.hollows) (c.render cx none) := by
      rcases Comparison.eq_of_nullTest? hn with rfl | rfl
      · exact ha none
      · exact hb none
    rw [render_comparison_of_some hn, Predicate.hollows, Comparison.hollows_of_nullTest? hn]
    exact hc.bind fun _ h => .ok (h.before hw)

theorem fills_between (hc : ∀ hint, Yields (Fills cx.dialect · c.hollows) (c.render cx hint)) :
    Yields (Fills cx.dialect · (between a b c).hollows) ((between a b c).render cx) := by
  rw [Predicate.render]
  refine (ha _).bind fun _ h => (hb _).bind fun _ hl => (hc _).bind fun _ hh => .ok ?_
  exact (h.between (by decide) hl).between (by decide) hh

theorem fills_like (caseSensitive : Bool) :
    Yields (Fills cx.dialect · (like a b caseSensitive).hollows) ((like a b caseSensitive).render cx) := by
  rw [Predicate.render]
  split
  case isTrue =>
    have hop : Survey.Takes (" " ++ (if caseSensitive then "LIKE" else "ILIKE") ++ " ") none := by
      cases caseSensitive <;> decide
    exact (ha _).bind fun _ hf => (hb _).bind fun _ hg => .ok (hf.between hop hg)
  case isFalse =>
    refine (ha _).bind fun _ hf => (hb _).bind fun _ hg => .ok ?_
    have hopens : Opens cx.dialect (words "LOWER(") (some .parenthesis) := .words _ (by decide)
    have hlike : Adds cx.dialect (words ") LIKE LOWER(" ++ _) _ := .after (some .parenthesis) (by decide) (hg.heads _)
    simpa [hollows] using Fills.closed ((hf.after hopens).heads.append hlike)

theorem fills_startsWith : Yields (Fills cx.dialect · (startsWith a b).hollows) ((startsWith a b).render cx) := by
  rw [Predicate.render]
  exact (ha _).bind fun _ hf => (hb _).bind fun _ hg => .ok (hf.between (by decide) (fills_withSuffix hg))

theorem fills_endsWith : Yields (Fills cx.dialect · (endsWith a b).hollows) ((endsWith a b).render cx) := by
  rw [Predicate.render]
  exact (ha _).bind fun _ hf => (hb _).bind fun _ hg => .ok (hf.between (by decide) (fills_withStart hg))

end Predicate

theorem Predicate.adds_renderAfter {p : Predicate} (h : Yields (Fills cx.dialect · p.hollows) (p.render cx))
    (hw : Survey.Breaks w none) : Yields (Adds cx.dialect · p.hollows) (p.renderAfter cx w) := by
  unfold renderAfter
  split
  case isTrue halways =>
    cases p
    case always => exact .ok (.nil _)
    all_goals cases halways
  case isFalse => exact h.bind fun _ h => .ok (.after none hw (h.heads _))

end

mutual

theorem Column.fills_render (cx : Context) (hd : cx.dialect.Simple) (hint : Option ColumnType) (c : Column) :
    Yields (Fills cx.dialect · c.hollows) (c.render cx hint) := by
  cases c
  case physical id aliasName =>
    rw [Column.render]
    exact .ok (fills_columnName cx _ _)
  case param v =>
    rw [Column.render]
    exact (Yields.trivial _).bind fun _ _ => .ok (.param _ _)
  case literal v =>
    rw [Column.render]
    exact (Yields.trivial _).bind fun _ _ => .ok (.literal _ _)
  case subSelect s =>
    rw [Column.render]
    exact (s.heads_render cx hd).bind fun _ h => .ok (.parenthesised (h _))
  case star table =>
    have hstar : Fills cx.dialect (words "*") [] := .words _ (by decide)
    cases table
    case none =>
      rw [Column.render]
      exact .ok hstar
    case some =>
      rw [Column.render]
      exact .ok (((Fills.name _ _).before (w := ".") (by decide)).append hstar)
  case null =>
    rw [Column.render]
    exact .ok (.words _ (by decide))
  case function f =>
    rw [Column.render]
    exact f.fills_render cx hd
termination_by structural c

theorem Column.fills_renderAll (cx : Context) (hd : cx.dialect.Simple) (hint : Option ColumnType) (cs : List Column) :
    Yields (FillAll cx.dialect · (Column.allHollows cs)) (Column.renderAll cx hint cs) := by
  cases cs
  case nil =>
    rw [Column.renderAll]
    exact .ok .nil
  case cons a r =>
    rw [Column.renderAll]
    refine (a.fills_render cx hd hint).bind fun _ hf => ?_
    exact (Column.fills_renderAll cx hd hint r).bind fun _ h => .ok (.cons hf h)
termination_by structural cs

theorem Function.fills_render (cx : Context) (hd : cx.dialect.Simple) (f : Function) :
    Yields (Fills cx.dialect · f.hollows) (f.render cx) := by
  cases f
  case mk kind args distinct window =>
    rw [Function.render_eq]
    have hargs := Column.fills_renderAll cx hd ((Function.mk kind args distinct none).argumentType? cx.catalog) args
    refine (Function.yields_call hd distinct hargs).bind fun f hf => ?_
    cases window
    case none =>
      rw [Function.windowed]
      split
      case isTrue => exact .error _
      case isFalse => exact .ok (by simpa [Function.hollows] using hf)
    case some w =>
      have hover : Fills cx.dialect (words " OVER (") [] := .words _ (by decide)
      refine (Yields.trivial _).bind fun _ _ => (w.adds_render cx hd).bind fun _ hw => .ok ?_
      have hcall := Fills.closed ((hf.append hover).heads.append hw)
      simpa [Function.hollows] using hcall
termination_by structural f

theorem Window.adds_render (cx : Context) (hd : cx.dialect.Simple) (w : Window) :
    Yields (Adds cx.dialect · w.hollows) (w.render cx) := by
  cases w
  case mk partition order =>
    rw [Window.render]
    refine (Column.fills_renderAll cx hd none partition).bind fun columns hcolumns => ?_
    refine (OrderItem.fills_renderAll cx hd order).bind fun items hitems => .ok ?_
    have hspace : Adds cx.dialect (if columns.isEmpty || items.isEmpty then [] else words " ") [] := by
      split
      case isTrue => exact .nil _
      case isFalse => exact (Keeps.blank _).adds
    have hpartition := hcolumns.adds_unless_empty (w := "PARTITION BY ") (o := some .by) (by decide)
    have horder := hitems.adds_unless_empty (w := "ORDER BY ") (o := some .by) (by decide)
    rw [List.append_assoc]
    exact hpartition.append (hspace.append_nil horder)
termination_by structural w

theorem OrderItem.fills_render (cx : Context) (hd : cx.dialect.Simple) (o : OrderItem) :
    Yields (Fills cx.dialect · o.hollows) (o.render cx) := by
  cases o
  case mk column direction =>
    rw [OrderItem.render]
    have hw : Survey.Takes (" " ++ direction.text) none := by
      cases direction <;> decide
    exact (column.fills_render cx hd none).bind fun _ h => .ok (h.before hw)
termination_by structural o

theorem OrderItem.fills_renderAll (cx : Context) (hd : cx.dialect.Simple) (os : List OrderItem) :
    Yields (FillAll cx.dialect · (OrderItem.allHollows os)) (OrderItem.renderAll cx os) := by
  cases os
  case nil =>
    rw [OrderItem.renderAll]
    exact .ok .nil
  case cons a r =>
    rw [OrderItem.renderAll]
    refine (a.fills_render cx hd).bind fun _ hf => ?_
    exact (OrderItem.fills_renderAll cx hd r).bind fun _ h => .ok (.cons hf h)
termination_by structural os

theorem Predicate.fills_render (cx : Context) (hd : cx.dialect.Simple) (p : Predicate) :
    Yields (Fills cx.dialect · p.hollows) (p.render cx) := by
  cases p
  case always =>
    rw [Predicate.render]
    exact .ok hd.truth.1
  case never =>
    rw [Predicate.render]
    exact .ok hd.truth.2
  case comparison op a b =>
    exact Predicate.fills_comparison (fun hint => a.fills_render cx hd hint) (fun hint => b.fills_render cx hd hint) op
  case inList column list =>
    exact Predicate.fills_inList (fun hint => column.fills_render cx hd hint) hd
      (fun hint => Column.fills_renderAll cx hd hint list)
  case between column low high =>
    exact Predicate.fills_between (fun hint => column.fills_render cx hd hint)
      (fun hint => low.fills_render cx hd hint) (fun hint => high.fills_render cx hd hint)
  case like a b caseSensitive =>
    exact Predicate.fills_like (fun hint => a.fills_render cx hd hint)
      (fun hint => b.fills_render cx hd hint) caseSensitive
  case startsWith a b =>
    exact Predicate.fills_startsWith (fun hint => a.fills_render cx hd hint) (fun hint => b.fills_render cx hd hint)
  case endsWith a b =>
    exact Predicate.fills_endsWith (fun hint => a.fills_render cx hd hint) (fun hint => b.fills_render cx hd hint)
  case existsRow s =>
    rw [Predicate.render]
    have hexists : Fills cx.dialect (words "EXISTS ") [] := .words _ (by decide)
    exact (s.heads_render cx hd).bind fun _ h => .ok (hexists.append (.parenthesised (h _)))
  case and p q =>
    rw [Predicate.render]
    refine (p.fills_render cx hd).bind fun _ hp => (q.fills_render cx hd).bind fun _ hq => .ok ?_
    exact .parenthesised ((hp.between (by decide) hq).heads _)
  case or p q =>
    rw [Predicate.render]
    refine (p.fills_render cx hd).bind fun _ hp => (q.fills_render cx hd).bind fun _ hq => .ok ?_
    exact .parenthesised ((hp.between (by decide) hq).heads _)
  case not p =>
    rw [Predicate.render]
    have hnot : Fills cx.dialect (words "NOT") [] := .words _ (by decide)
    exact (p.fills_render cx hd).bind fun _ hp => .ok (hnot.append (.parenthesised (hp.heads _)))
termination_by structural p

theorem Table.fills_render (cx : Context) (hd : cx.dialect.Simple) (t : Table) :
    Yields (Fills cx.dialect · t.hollows) (t.render cx) := by
  cases t
  case physical id aliasName =>
    have hname := Fills.name cx.dialect (cx.catalog.tableName id)
    cases aliasName
    case none =>
      rw [Table.render]
      exact .ok hname
    case some a =>
      rw [Table.render]
      split
      case isTrue => exact .ok hname
      case isFalse => exact .ok (fills_aliased hd hname a)
  case join kind left right condition =>
    rw [Table.render]
    have hw : Survey.Takes kind.text none := by
      cases kind <;> decide
    refine (left.fills_render cx hd).bind fun _ hl => (right.fills_render cx hd).bind fun _ hr => ?_
    refine (condition.fills_render cx hd).bind fun _ hp => .ok ?_
    have hon : Ends cx.dialect (words " ON " ++ _) _ := .after none (by decide) hp
    simpa [Table.hollows] using (hl.between hw hr).heads.append_ends hon
  case subSelect s aliasName =>
    rw [Table.render]
    exact (s.heads_render cx hd).bind fun _ h => .ok (fills_aliased hd (.parenthesised (h _)) _)
termination_by structural t

theorem Select.heads_render (cx : Context) (hd : cx.dialect.Simple) (s : Select) :
    Yields (Heads cx.dialect · s.hollows) (s.render cx) := by
  cases s
  case mk table columns distinct predicate groups having items offset limit forUpdate =>
    rw [Select.render_eq]
    split
    case isTrue => exact .error _
    case isFalse hcolumns =>
      refine (Select.keeps_renderTop cx.dialect _ limit offset).bind fun top htop => ?_
      refine (Column.fills_renderAll cx hd none columns).bind fun projected hprojected => ?_
      refine (table.fills_render cx hd).bind fun source hsource => ?_
      refine (predicate.adds_renderAfter (predicate.fills_render cx hd) (by decide)).bind fun _ hfilter => ?_
      refine (Column.adds_renderGrouping cx hd groups).bind fun _ hgrouping => ?_
      refine (Predicate.adds_renderHaving cx hd having).bind fun _ hhaving => ?_
      refine (OrderItem.adds_renderOrder cx hd items).bind fun _ horder => ?_
      refine (Select.adds_renderWindow hd _ limit offset).bind fun _ hwindow => ?_
      refine (Select.adds_renderForUpdate cx forUpdate).bind fun _ hlock => .ok ?_
      have hselect : Opens cx.dialect (words "SELECT " ++ (if distinct then words "DISTINCT " else []) ++ top)
          (some .select) :=
        .append (.append (.words _ (by decide)) (keeps_distinct _ distinct)) htop
      have hlist : Fills cx.dialect (joined ", " projected) (Column.allHollows columns).flatten :=
        hprojected.joined Survey.separates_comma (Column.allHollows_ne_nil (by simpa using hcolumns))
      have hsource : Ends cx.dialect (words " FROM " ++ source) table.hollows := .after none (by decide) hsource
      have htail := (((((hsource.adds.append hfilter).append hgrouping).append hhaving).append horder).append
        hwindow).append hlock
      simpa [Select.hollows] using (hlist.after hselect).heads.append htail
termination_by structural s

theorem Predicate.adds_renderHaving (cx : Context) (hd : cx.dialect.Simple) (p : Option Predicate) :
    Yields (Adds cx.dialect · (Predicate.havingHollows p)) (Predicate.renderHaving cx p) := by
  cases p
  case none =>
    rw [Predicate.renderHaving]
    exact .ok (.nil _)
  case some p =>
    have hafter := p.adds_renderAfter (p.fills_render cx hd) (w := " HAVING ") (by decide)
    rwa [Predicate.renderAfter] at hafter
termination_by structural p

theorem Column.adds_renderGrouping (cx : Context) (hd : cx.dialect.Simple) (cs : Option (List Column)) :
    Yields (Adds cx.dialect · (Column.groupingHollows cs)) (Column.renderGrouping cx cs) := by
  cases cs
  case none =>
    rw [Column.renderGrouping]
    exact .ok (.nil _)
  case some cs =>
    rw [Column.renderGrouping]
    exact (Column.fills_renderAll cx hd none cs).bind fun _ h =>
      .ok (Adds.blank (.after _ (by decide) (h.finds .grouping Survey.separates_comma)))
termination_by structural cs

theorem OrderItem.adds_renderOrder (cx : Context) (hd : cx.dialect.Simple) (os : Option (List OrderItem)) :
    Yields (Adds cx.dialect · (OrderItem.orderHollows os)) (OrderItem.renderOrder cx os) := by
  cases os
  case none =>
    rw [OrderItem.renderOrder]
    exact .ok (.nil _)
  case some os =>
    rw [OrderItem.renderOrder]
    exact (OrderItem.fills_renderAll cx hd os).bind fun _ h =>
      .ok (Adds.blank (.after _ (by decide) (h.finds .ordering Survey.separates_comma)))
termination_by structural os

end

end PolySql
