import PolySql.Proofs.Sql.Assembly
import PolySql.Proofs.Sql.Grammar
import PolySql.Query.Render

namespace PolySql

-- Whatever the computation gives has the property.
def Yields {α : Type} (p : α → Prop) (r : Result α) : Prop :=
  ∀ a, r = .ok a → p a

namespace Yields

variable {α β : Type} {p : α → Prop} {q : β → Prop} {r : Result α}

theorem ok {a : α} (h : p a) : Yields p (.ok a) := by
  rintro _ ⟨⟩
  exact h

theorem error (e : DatabaseError) : Yields p (.error e) :=
  nofun

theorem bind {f : α → Result β} (h : Yields p r) (hf : ∀ a, p a → Yields q (f a)) :
    Yields q (r >>= f) := by
  intro b hb
  cases r
  case error => nomatch hb
  case ok a => exact hf a (h a rfl) b hb

theorem trivial (r : Result α) : Yields (fun _ => True) r :=
  fun _ _ => .intro

theorem self (r : Result α) : Yields (r = .ok ·) r :=
  fun _ h => h

theorem mono {p' : α → Prop} (h : Yields p r) (hp : ∀ a, p a → p' a) : Yields p' r :=
  fun a ha => hp a (h a ha)

end Yields

namespace Fragment

-- A fragment that can be read on its own, with as many parentheses closed as opened.
abbrev Whole (d : Dialect) (f : Fragment) : Prop :=
  Sound d 0 f 0

-- A part of a statement that is left out or ends so that anything may follow.
structure Head (d : Dialect) (f : Fragment) : Prop where
  whole : Whole d f
  leads : Leads d f

-- A part of a statement that is left out or begins so that it may follow anything.
structure Clause (d : Dialect) (f : Fragment) : Prop where
  whole : Whole d f
  trails : Trails f

-- A clause with which a condition before it ends.
structure Tail (d : Dialect) (f : Fragment) : Prop extends Clause d f where
  closes : Closes d f

variable {d : Dialect} {f g : Fragment} {w : String}

theorem Head.nil (d : Dialect) : Head d [] :=
  ⟨.nil d 0, .nil⟩

theorem Clause.nil (d : Dialect) : Clause d [] :=
  ⟨.nil d 0, .nil⟩

theorem Tail.nil (d : Dialect) : Tail d [] :=
  ⟨.nil d, .nil d⟩

theorem Head.append (hf : Head d f) (hg : Head d g) : Head d (f ++ g) :=
  ⟨hf.whole.append hg.whole (.inl hf.leads), hf.leads.append hg.leads⟩

theorem Head.whole_append (hf : Head d f) (hg : Whole d g) : Whole d (f ++ g) :=
  hf.whole.append hg (.inl hf.leads)

theorem Sound.append_clause (hf : Whole d f) (hg : Clause d g) : Whole d (f ++ g) :=
  hf.append hg.whole (.inr hg.trails)

theorem Clause.append (hf : Clause d f) (hg : Clause d g) : Clause d (f ++ g) :=
  ⟨hf.whole.append_clause hg, hf.trails.append hg.trails⟩

theorem Tail.append (hf : Tail d f) (hg : Tail d g) : Tail d (f ++ g) :=
  ⟨hf.toClause.append hg.toClause, hf.closes.append hg.closes⟩

section

variable (hd : d ∈ Dialect.builtins)

include hd

theorem Head.words (hw : ∀ l ∈ Lexis.vendors, l.opening 0 w 0 = true) : Head d (Fragment.words w) := by
  have hw := hw _ (Dialect.lexis_mem hd)
  rw [Lexis.opening, Bool.and_eq_true] at hw
  exact ⟨.words hw.1, .words hw.2 []⟩

theorem Clause.words (hw : ∀ l ∈ Lexis.vendors, l.closing 0 w 0 = true) :
    Clause d (Fragment.words w) := by
  have hw := hw _ (Dialect.lexis_mem hd)
  rw [Lexis.closing, Bool.and_eq_true] at hw
  exact ⟨.words hw.1, .words hw.2 []⟩

theorem Head.enclosed {a b : String} (ha : ∀ l ∈ Lexis.vendors, l.opening 0 a 1 = true)
    (hf : Whole d f) (hb : ∀ l ∈ Lexis.vendors, l.joining 1 b 0 = true) :
    Head d (Fragment.words a ++ f ++ Fragment.words b) := by
  have hj := hb _ (Dialect.lexis_mem hd)
  simp only [Lexis.joining, Bool.and_eq_true] at hj
  exact ⟨(Sound.after hd ha (hf.within 1)).append (.words hj.1.1) (.inr (.words hj.2 [])), .words hj.1.2 _⟩

theorem Clause.after (hw : ∀ l ∈ Lexis.vendors, l.joining 0 w 0 = true) (hf : Whole d f) :
    Clause d (Fragment.words w ++ f) := by
  have hj := hw _ (Dialect.lexis_mem hd)
  simp only [Lexis.joining, Bool.and_eq_true] at hj
  exact ⟨(Sound.words hj.1.1).append hf (.inl (.words hj.1.2 [])), .words hj.2 f⟩

theorem Closes.after (hw : ∀ l ∈ Lexis.vendors, l.closesCondition w = true) (f : Fragment) :
    Closes d (Fragment.words w ++ f) :=
  .words (hw _ (Dialect.lexis_mem hd)) f

theorem Tail.words (hw : ∀ l ∈ Lexis.vendors, l.closing 0 w 0 = true ∧ l.closesCondition w = true) :
    Tail d (Fragment.words w) :=
  ⟨.words hd fun l hl => (hw l hl).1, by simpa using Closes.after hd (fun l hl => (hw l hl).2) []⟩

theorem Tail.after (hw : ∀ l ∈ Lexis.vendors, l.joining 0 w 0 = true ∧ l.closesCondition w = true)
    (hf : Whole d f) : Tail d (Fragment.words w ++ f) :=
  ⟨.after hd (fun l hl => (hw l hl).1) hf, .after hd (fun l hl => (hw l hl).2) f⟩

theorem Tail.blank (hf : Whole d f ∧ Closes d f) : Tail d (Fragment.words " " ++ f) := by
  have hw : ∀ l ∈ Lexis.vendors, l.words " " = [] := by decide
  refine ⟨.after hd (by decide) hf.1, fun r hr => ?_⟩
  rw [lexemes_append, lexemes_words, hw _ (Dialect.lexis_mem hd)]
  exact hf.2 r hr

end

end Fragment

open Fragment

variable {d : Dialect} (hd : d ∈ Dialect.builtins)

-- The bounds on the number of rows.

theorem Context.rowCount_eq_ok {n : Int64} : rowCount what n = .ok f ↔ 0 ≤ n.toInt ∧ f = [.param (.int n)] := by
  unfold rowCount
  split
  case isTrue h => simp [h]
  case isFalse h => simp [Int.not_lt.mp h, eq_comm]

theorem whole_rowCount (d : Dialect) (what : String) (n : Int64) : Yields (Whole d) (Context.rowCount what n) := by
  unfold Context.rowCount
  split
  case isTrue => exact .error _
  case isFalse => exact .ok (.param _ 0)

-- The words for a limit that leaves no row out, where an offset needs one.
def LimitStyle.unbounded? : LimitStyle → Option String
  | .limitOffset all => all
  | .offsetFetch .. => none

section

include hd

theorem phrase_limitClause (n : Int64) : Yields (fun f => Whole d f ∧ Closes d f) (limitClause n) :=
  (whole_rowCount d _ n).bind fun _ h => .ok ⟨.after hd (by decide) h, .after hd (by decide) _⟩

theorem phrase_offsetClause (n : Int64) : Yields (fun f => Whole d f ∧ Closes d f) (offsetClause n) :=
  (whole_rowCount d _ n).bind fun _ h => .ok ⟨.after hd (by decide) h, .after hd (by decide) _⟩

namespace Select

theorem head_renderTop (style : LimitStyle) (limit offset : Option Int64) :
    Yields (Head d) (renderTop style limit offset) := by
  unfold renderTop
  split
  case h_1 n _ => exact (whole_rowCount d _ n).bind fun f h => .ok (.enclosed hd (by decide) h (by decide))
  case h_2 => exact .ok (.nil d)

theorem tail_renderLimit (limit : Option Int64) : Yields (Tail d) (renderLimit limit) := by
  cases limit
  case none => exact .ok (.nil d)
  case some n => exact (phrase_limitClause hd n).bind fun _ h => .ok (.blank hd h)

theorem tail_renderLimitOffset (unbounded : Option String) (limit offset : Option Int64)
    (hu : ∀ all ∈ unbounded, d.lexis.fits 0 all 0 = true) :
    Yields (Tail d) (renderLimitOffset unbounded limit offset) := by
  refine (tail_renderLimit hd limit).bind fun head hhead => ?_
  cases offset
  case none => exact .ok hhead
  case some n =>
    refine (phrase_offsetClause hd n).bind fun f hf => .ok ?_
    rw [List.append_assoc]
    refine (hhead.append ?_).append (.blank hd hf)
    cases limit
    case some => exact .nil d
    case none =>
      cases unbounded
      case none => exact .nil d
      case some all => exact .after hd (by decide) (.words (hu all rfl))

theorem tail_renderOffsetRows (requiresOrder : Bool) (offset : Option Int64) :
    Yields (Tail d) (renderOffsetRows requiresOrder offset) := by
  cases offset
  case none =>
    cases requiresOrder
    case false => exact .ok (.nil d)
    case true => exact .ok (.words hd (by decide))
  case some n =>
    exact (phrase_offsetClause hd n).bind fun f hf => .ok ((Tail.blank hd hf).append (.words hd (by decide)))

theorem tail_renderFetch (limit : Option Int64) : Yields (Tail d) (renderFetch limit) := by
  cases limit
  case none => exact .ok (.nil d)
  case some n =>
    refine (whole_rowCount d _ n).bind fun f hf => .ok ?_
    exact (Tail.after hd (by decide) hf).append (.words hd (by decide))

theorem tail_renderOffsetFetch (requiresOrder ordered : Bool) (limit offset : Option Int64) :
    Yields (Tail d) (renderOffsetFetch requiresOrder ordered limit offset) := by
  have horder : Tail d (if requiresOrder && !ordered then words " ORDER BY (SELECT NULL)" else []) := by
    split
    case isTrue => exact .words hd (by decide)
    case isFalse => exact .nil d
  unfold renderOffsetFetch
  split
  case isTrue => exact .ok (.nil d)
  case isFalse =>
    refine (tail_renderOffsetRows hd requiresOrder offset).bind fun rows hrows => ?_
    exact (tail_renderFetch hd limit).bind fun f hf => .ok ((horder.append hrows).append hf)

theorem tail_renderWindow (ordered : Bool) (limit offset : Option Int64) :
    Yields (Tail d) (renderWindow d.limitStyle ordered limit offset) := by
  have hu : ∀ d ∈ Dialect.builtins, ∀ all ∈ d.limitStyle.unbounded?, d.lexis.fits 0 all 0 = true := by
    decide
  have hu := hu d hd
  cases hs : d.limitStyle
  case limitOffset unbounded =>
    rw [hs] at hu
    exact tail_renderLimitOffset hd unbounded limit offset hu
  case offsetFetch =>
    rw [renderWindow]
    split
    case isTrue => exact .ok (.nil d)
    case isFalse => exact tail_renderOffsetFetch hd _ _ _ _

end Select

end

-- A comparison that is written as a test for `NULL`: whether it is negated, and the column that is tested.
def Comparison.nullTest? (op : Comparison) (a b : Column) : Option (Bool × Column) :=
  match op with
  | .eq => if b.isNull then some (false, a) else if a.isNull then some (false, b) else none
  | .ne => if b.isNull then some (true, a) else if a.isNull then some (true, b) else none
  | _ => none

theorem Comparison.eq_of_nullTest? {isNegated : Bool} (h : nullTest? op a b = some (isNegated, c)) : c = a ∨ c = b := by
  cases op <;> simp only [nullTest?, reduceCtorEq] at h
  all_goals
    split_ifs at h <;> cases h
    · exact .inl rfl
    · exact .inr rfl

def nullTest (negated : Bool) : String :=
  if negated then " IS NOT NULL" else " IS NULL"

theorem Predicate.render_comparison_of_some {cx : Context} {isNegated : Bool} {c : Column}
    (h : op.nullTest? a b = some (isNegated, c)) :
    (comparison op a b).render cx = do return (← c.render cx none) ++ words (nullTest isNegated) := by
  cases op <;> cases ha : a.isNull <;> cases hb : b.isNull <;> simp [Comparison.nullTest?, ha, hb] at h
  all_goals
    obtain ⟨rfl, rfl⟩ := h
    simp [Predicate.render, ha, hb, nullTest]

theorem Predicate.render_comparison_of_none {cx : Context} (h : op.nullTest? a b = none) :
    (comparison op a b).render cx = do
      let left ← a.render cx (b.type? cx.catalog)
      let right ← b.render cx (a.type? cx.catalog)
      return binary left op.text right := by
  cases op <;> cases ha : a.isNull <;> cases hb : b.isNull <;> simp [Comparison.nullTest?, ha, hb] at h
  all_goals simp [Predicate.render, ha, hb]

namespace Function

-- The arguments as they are written, if the function takes any.
def renderArguments (cx : Context) (kind : FunctionKind) (args : List Column) (distinct : Bool) :
    Result (List Fragment) :=
  if rendersArguments kind then
    Column.renderAll cx ((Function.mk kind args distinct none).argumentType? cx.catalog) args
  else .ok []

-- A call over a window, if there is one.
def windowed (cx : Context) (kind : FunctionKind) (call : Fragment) : Option Window → Result Fragment
  | none => if kind = .rowNumber then .error (.compilation "ROW_NUMBER requires an OVER clause") else .ok call
  | some window => do
    cx.require .windowFunctions "window function"
    return call ++ words " OVER (" ++ (← window.render cx) ++ words ")"

theorem render_eq (cx : Context) (kind : FunctionKind) (args : List Column) (distinct : Bool)
    (window : Option Window) : render cx ⟨kind, args, distinct, window⟩ =
      (renderArguments cx kind args distinct >>= fun fs => return call cx kind distinct fs) >>=
        fun f => windowed cx kind f window := by
  cases window <;> simp only [render, renderArguments, bind_assoc, pure_bind] <;> split <;> rfl

theorem yields_renderArguments {cx : Context} {p : List Fragment → Prop} (kind : FunctionKind)
    (args : List Column) (distinct : Bool) (hn : p [])
    (h : Yields p (Column.renderAll cx ((Function.mk kind args distinct none).argumentType? cx.catalog) args)) :
    Yields p (renderArguments cx kind args distinct) := by
  rw [renderArguments]
  split
  case isTrue => exact h
  case isFalse => exact .ok hn

theorem applied_eq (distinct : Bool) (args : List Fragment) (name : Fragment) :
    call.applied distinct args name =
      name ++ parenthesised ((if distinct then words "DISTINCT " else []) ++ joined ", " args) := by
  simp [call.applied, parenthesised, words]

end Function

theorem Select.render_eq (cx : Context) (s : Select) : s.render cx =
    if s.columns.isEmpty then .error (.compilation "SELECT must project at least one column")
    else do
      let top ← Select.renderTop cx.dialect.limitStyle s.limit s.offset
      let projected ← Column.renderAll cx none s.columns
      let source ← s.table.render cx
      let filter ← s.predicate.renderAfter cx " WHERE "
      let grouping ← Column.renderGrouping cx s.groupBy
      let groupFilter ← Predicate.renderHaving cx s.having
      let order ← OrderItem.renderOrder cx s.orderBy
      let window ← Select.renderWindow cx.dialect.limitStyle s.orderBy.isSome s.limit s.offset
      let lock ← Select.renderForUpdate cx s.forUpdate
      return words "SELECT " ++ (if s.distinct then words "DISTINCT " else []) ++ top ++
        joined ", " projected ++ words " FROM " ++ source ++ filter ++ grouping ++ groupFilter ++
        order ++ window ++ lock := by
  cases s
  case mk table columns distinct predicate groups having items offset limit forUpdate =>
    rw [Select.render, Predicate.renderAfter]
    cases hc : columns.isEmpty
    case true => rfl
    case false =>
      cases hp : predicate.isAlways
      case true => simp [pure, Except.pure, bind, Except.bind]
      case false => simp

section

variable {cx : Context} (hcx : cx.dialect ∈ Dialect.builtins)

include hcx

theorem Predicate.tail_renderAfter {p : Predicate} (h : Yields (Whole cx.dialect) (p.render cx))
    (hw : ∀ l ∈ Lexis.vendors, l.joining 0 opening 0 = true ∧ l.closesCondition opening = true) :
    Yields (Tail cx.dialect) (p.renderAfter cx opening) := by
  rw [renderAfter]
  split
  case isTrue => exact .ok (.nil _)
  case isFalse => exact h.bind fun _ h => .ok (.after hcx hw h)

theorem Select.tail_renderForUpdate (forUpdate : Bool) :
    Yields (Tail cx.dialect) (renderForUpdate cx forUpdate) := by
  cases forUpdate
  case false => exact .ok (.nil _)
  case true => exact (Yields.trivial _).bind fun _ _ => .ok (.words hcx (by decide))

theorem whole_columnName (owner column : String) : Whole cx.dialect (cx.columnName owner column) := by
  rw [Context.columnName]
  split
  case isTrue => exact .qualified hcx owner (.name hcx column 0)
  case isFalse => exact .name hcx column 0

theorem whole_withSuffix (h : Whole cx.dialect f) : Whole cx.dialect (cx.withSuffix f) := by
  rw [Context.withSuffix]
  cases cx.dialect.concatStyle
  case operator => exact .before hcx h (by decide)
  case function => exact (Sound.after hcx (by decide) (h.within 1)).before hcx (by decide)

theorem whole_withStart (h : Whole cx.dialect f) : Whole cx.dialect (cx.withStart f) := by
  rw [Context.withStart]
  cases cx.dialect.concatStyle
  case operator => exact .after hcx (by decide) h
  case function => exact (Sound.after hcx (by decide) (h.within 1)).before hcx (by decide)

theorem whole_aliased (h : Whole cx.dialect f) (aliasName : String) :
    Whole cx.dialect (Table.aliased cx f aliasName) := by
  have hw : ∀ d ∈ Dialect.builtins, ∀ l ∈ Lexis.vendors, l.joining 0 d.aliasSeparator 0 = true := by
    decide
  have := h.between hcx (hw _ hcx) (.name hcx aliasName 0)
  rw [List.append_assoc] at this
  exact this

theorem whole_binary (hf : Whole cx.dialect f) (hg : Whole cx.dialect g)
    (hop : ∀ l ∈ Lexis.vendors, l.joining 0 (" " ++ op ++ " ") 0 = true) :
    Whole cx.dialect (binary f op g) :=
  hf.between hcx hop hg

theorem whole_arguments (distinct : Bool) (h : ∀ f ∈ args, Whole cx.dialect f) :
    Whole cx.dialect ((if distinct then words "DISTINCT " else []) ++ joined ", " args) := by
  have hlist : Whole cx.dialect (joined ", " args) := .joined hcx (by decide) h
  cases distinct
  case false => exact hlist
  case true => exact .after hcx (by decide) hlist

theorem whole_call (kind : FunctionKind) (distinct : Bool) (h : ∀ f ∈ args, Whole cx.dialect f) :
    Whole cx.dialect (Function.call cx kind distinct args) := by
  have hkind : ∀ d ∈ Dialect.builtins, d.lexis.fits 0 (d.functionName kind) 0 = true := by
    cases kind <;> decide
  have hname := Sound.words (hkind _ hcx)
  have happlied : Whole cx.dialect (Function.call.applied distinct args (words (cx.dialect.functionName kind))) := by
    rw [Function.applied_eq]
    exact hname.append (.parenthesised hcx (whole_arguments hcx distinct h)) (.inr (.words rfl _))
  unfold Function.call
  split
  case h_1 => exact hname
  case h_2 =>
    split
    case h_1 => exact .parenthesised hcx (.joined hcx (by decide) h)
    case h_2 => exact happlied
  case h_3 =>
    split
    case isTrue => exact hname.before hcx (by decide)
    case isFalse => exact happlied
  case h_4 => exact happlied

namespace Predicate

theorem whole_truth : Whole cx.dialect (words cx.dialect.trueText) ∧ Whole cx.dialect (words cx.dialect.falseText) := by
  have hw : ∀ d ∈ Dialect.builtins, d.lexis.fits 0 d.trueText 0 = true ∧ d.lexis.fits 0 d.falseText 0 = true := by
    decide
  exact ⟨.words (hw _ hcx).1, .words (hw _ hcx).2⟩

variable {a b c : Column} (ha : ∀ hint, Yields (Whole cx.dialect) (a.render cx hint))

include ha

theorem whole_inList (hlist : ∀ hint, Yields (∀ f ∈ ·, Whole cx.dialect f) (Column.renderAll cx hint list)) :
    Yields (Whole cx.dialect) ((inList a list).render cx) := by
  cases list
  case nil =>
    rw [Predicate.render]
    exact .ok (whole_truth hcx).2
  case cons =>
    rw [Predicate.render]
    · refine (ha _).bind fun _ hc => (hlist _).bind fun _ h => .ok ?_
      exact hc.between hcx (by decide) (.parenthesised hcx (.joined hcx (by decide) h))
    · simp

variable (hb : ∀ hint, Yields (Whole cx.dialect) (b.render cx hint))

include hb

theorem whole_comparison (op : Comparison) : Yields (Whole cx.dialect) ((comparison op a b).render cx) := by
  rcases hn : op.nullTest? a b with _ | ⟨isNegated, c⟩
  case none =>
    have hop : ∀ l ∈ Lexis.vendors, l.joining 0 (" " ++ op.text ++ " ") 0 = true := by
      cases op <;> decide
    rw [render_comparison_of_none hn]
    exact (ha _).bind fun _ hf => (hb _).bind fun _ hg => .ok (whole_binary hcx hf hg hop)
  case some =>
    have hw : ∀ l ∈ Lexis.vendors, l.closing 0 (nullTest isNegated) 0 = true := by
      cases isNegated <;> decide
    have hc : Yields (Whole cx.dialect) (c.render cx none) := by
      rcases Comparison.eq_of_nullTest? hn with rfl | rfl
      · exact ha none
      · exact hb none
    rw [render_comparison_of_some hn]
    exact hc.bind fun _ h => .ok (h.before hcx hw)

theorem whole_between (hc : ∀ hint, Yields (Whole cx.dialect) (c.render cx hint)) :
    Yields (Whole cx.dialect) ((between a b c).render cx) := by
  rw [Predicate.render]
  refine (ha _).bind fun _ h => (hb _).bind fun _ hl => (hc _).bind fun _ hh => .ok ?_
  exact (h.between hcx (by decide) hl).between hcx (by decide) hh

theorem whole_like (caseSensitive : Bool) : Yields (Whole cx.dialect) ((like a b caseSensitive).render cx) := by
  rw [Predicate.render]
  split
  case isTrue =>
    have hop : ∀ l ∈ Lexis.vendors,
        l.joining 0 (" " ++ (if caseSensitive then "LIKE" else "ILIKE") ++ " ") 0 = true := by
      cases caseSensitive <;> decide
    exact (ha _).bind fun _ hf => (hb _).bind fun _ hg => .ok (whole_binary hcx hf hg hop)
  case isFalse =>
    refine (ha _).bind fun _ hf => (hb _).bind fun _ hg => .ok ?_
    have hl : Sound cx.dialect 0 (words "LOWER(" ++ _) 1 := .after hcx (by decide) (hf.within 1)
    exact (hl.between hcx (by decide) (hg.within 1)).before hcx (by decide)

theorem whole_startsWith : Yields (Whole cx.dialect) ((startsWith a b).render cx) := by
  rw [Predicate.render]
  refine (ha _).bind fun _ hf => (hb _).bind fun _ hg => .ok ?_
  exact hf.between hcx (by decide) (whole_withSuffix hcx hg)

theorem whole_endsWith : Yields (Whole cx.dialect) ((endsWith a b).render cx) := by
  rw [Predicate.render]
  refine (ha _).bind fun _ hf => (hb _).bind fun _ hg => .ok ?_
  exact hf.between hcx (by decide) (whole_withStart hcx hg)

end Predicate

end

mutual

theorem Column.whole_render (cx : Context) (hcx : cx.dialect ∈ Dialect.builtins)
    (hint : Option ColumnType) (c : Column) : Yields (Whole cx.dialect) (c.render cx hint) := by
  cases c
  case physical id aliasName =>
    rw [Column.render]
    exact .ok (whole_columnName hcx _ _)
  case param v =>
    rw [Column.render]
    exact (Yields.trivial _).bind fun _ _ => .ok (.param _ 0)
  case literal v =>
    rw [Column.render]
    exact (Yields.trivial _).bind fun _ _ => .ok (.literal hcx _ 0)
  case subSelect s =>
    rw [Column.render]
    exact (s.whole_render cx hcx).bind fun _ h => .ok (.parenthesised hcx h)
  case star table =>
    cases table
    case none =>
      rw [Column.render]
      exact .ok (.phrase hcx (by decide))
    case some =>
      rw [Column.render]
      exact .ok (.qualified hcx _ (.phrase hcx (by decide)))
  case null =>
    rw [Column.render]
    exact .ok (.phrase hcx (by decide))
  case function f =>
    rw [Column.render]
    exact f.whole_render cx hcx
termination_by structural c

theorem Column.whole_renderAll (cx : Context) (hcx : cx.dialect ∈ Dialect.builtins)
    (hint : Option ColumnType) (cs : List Column) :
    Yields (∀ f ∈ ·, Whole cx.dialect f) (Column.renderAll cx hint cs) := by
  cases cs
  case nil =>
    rw [Column.renderAll]
    exact .ok (by simp)
  case cons a r =>
    rw [Column.renderAll]
    exact (a.whole_render cx hcx hint).bind fun _ hf =>
      (Column.whole_renderAll cx hcx hint r).bind fun _ h =>
        .ok (List.forall_mem_cons.mpr ⟨hf, h⟩)
termination_by structural cs

theorem Function.whole_render (cx : Context) (hcx : cx.dialect ∈ Dialect.builtins) (f : Function) :
    Yields (Whole cx.dialect) (f.render cx) := by
  cases f
  case mk kind args distinct window =>
    rw [Function.render_eq]
    have hargs := Function.yields_renderArguments kind args distinct (by simp) (Column.whole_renderAll cx hcx _ args)
    refine (hargs.bind fun _ h => .ok (whole_call hcx kind distinct h)).bind fun f hf => ?_
    cases window
    case none =>
      rw [Function.windowed]
      split
      case isTrue => exact .error _
      case isFalse => exact .ok hf
    case some w =>
      exact (Yields.trivial _).bind fun _ _ => (w.whole_render cx hcx).bind fun _ hw =>
        .ok ((hf.between hcx (by decide) (hw.within 1)).before hcx (by decide))
termination_by structural f

theorem Window.whole_render (cx : Context) (hcx : cx.dialect ∈ Dialect.builtins) (w : Window) :
    Yields (Whole cx.dialect) (w.render cx) := by
  cases w
  case mk partition order =>
    rw [Window.render]
    refine (Column.whole_renderAll cx hcx none partition).bind fun columns hcolumns => ?_
    refine (OrderItem.whole_renderAll cx hcx order).bind fun items hitems => .ok ?_
    have hpartitions : Whole cx.dialect (words "PARTITION BY " ++ joined ", " columns) :=
      .after hcx (by decide) (.joined hcx (by decide) hcolumns)
    have horder : Whole cx.dialect (orderBy items) :=
      .after hcx (by decide) (.joined hcx (by decide) hitems)
    cases columns <;> cases items
    case nil.nil => exact .nil _ 0
    case nil.cons => simpa using horder
    case cons.nil => simpa using hpartitions
    case cons.cons => simpa using hpartitions.between hcx (w := " ") (by decide) horder
termination_by structural w

theorem OrderItem.whole_render (cx : Context) (hcx : cx.dialect ∈ Dialect.builtins) (o : OrderItem) :
    Yields (Whole cx.dialect) (o.render cx) := by
  cases o
  case mk column direction =>
    rw [OrderItem.render]
    have hw : ∀ l ∈ Lexis.vendors, l.closing 0 (" " ++ direction.text) 0 = true := by
      cases direction <;> decide
    exact (column.whole_render cx hcx none).bind fun _ h => .ok (h.before hcx hw)
termination_by structural o

theorem OrderItem.whole_renderAll (cx : Context) (hcx : cx.dialect ∈ Dialect.builtins)
    (os : List OrderItem) : Yields (∀ f ∈ ·, Whole cx.dialect f) (OrderItem.renderAll cx os) := by
  cases os
  case nil =>
    rw [OrderItem.renderAll]
    exact .ok (by simp)
  case cons a r =>
    rw [OrderItem.renderAll]
    exact (a.whole_render cx hcx).bind fun _ hf =>
      (OrderItem.whole_renderAll cx hcx r).bind fun _ h => .ok (List.forall_mem_cons.mpr ⟨hf, h⟩)
termination_by structural os

theorem Predicate.whole_render (cx : Context) (hcx : cx.dialect ∈ Dialect.builtins) (p : Predicate) :
    Yields (Whole cx.dialect) (p.render cx) := by
  cases p
  case always =>
    rw [Predicate.render]
    exact .ok (Predicate.whole_truth hcx).1
  case never =>
    rw [Predicate.render]
    exact .ok (Predicate.whole_truth hcx).2
  case comparison op a b =>
    exact Predicate.whole_comparison hcx (fun hint => a.whole_render cx hcx hint)
      (fun hint => b.whole_render cx hcx hint) op
  case inList column list =>
    exact Predicate.whole_inList hcx (fun hint => column.whole_render cx hcx hint)
      (fun hint => Column.whole_renderAll cx hcx hint list)
  case between column low high =>
    exact Predicate.whole_between hcx (fun hint => column.whole_render cx hcx hint)
      (fun hint => low.whole_render cx hcx hint) (fun hint => high.whole_render cx hcx hint)
  case like a b caseSensitive =>
    exact Predicate.whole_like hcx (fun hint => a.whole_render cx hcx hint)
      (fun hint => b.whole_render cx hcx hint) caseSensitive
  case startsWith a b =>
    exact Predicate.whole_startsWith hcx (fun hint => a.whole_render cx hcx hint)
      (fun hint => b.whole_render cx hcx hint)
  case endsWith a b =>
    exact Predicate.whole_endsWith hcx (fun hint => a.whole_render cx hcx hint)
      (fun hint => b.whole_render cx hcx hint)
  case existsRow s =>
    rw [Predicate.render]
    exact (s.whole_render cx hcx).bind fun _ h => .ok (.after hcx (by decide) (.parenthesised hcx h))
  case and p q =>
    rw [Predicate.render]
    refine (p.whole_render cx hcx).bind fun _ hp => ?_
    refine (q.whole_render cx hcx).bind fun _ hq => .ok ?_
    exact .parenthesised hcx (whole_binary hcx hp hq (by decide))
  case or p q =>
    rw [Predicate.render]
    refine (p.whole_render cx hcx).bind fun _ hp => ?_
    refine (q.whole_render cx hcx).bind fun _ hq => .ok ?_
    exact .parenthesised hcx (whole_binary hcx hp hq (by decide))
  case not p =>
    rw [Predicate.render]
    refine (p.whole_render cx hcx).bind fun _ hp => .ok ?_
    exact (Sound.phrase hcx (by decide)).append (.parenthesised hcx hp) (.inr (.words rfl _))
termination_by structural p

theorem Table.whole_render (cx : Context) (hcx : cx.dialect ∈ Dialect.builtins) (t : Table) :
    Yields (Whole cx.dialect) (t.render cx) := by
  cases t
  case physical id aliasName =>
    have hname := Sound.name hcx (cx.catalog.tableName id) 0
    cases aliasName
    case none =>
      rw [Table.render]
      exact .ok hname
    case some a =>
      rw [Table.render]
      split
      case isTrue => exact .ok hname
      case isFalse => exact .ok (whole_aliased hcx hname a)
  case join kind left right condition =>
    rw [Table.render]
    have hw : ∀ l ∈ Lexis.vendors, l.joining 0 kind.text 0 = true := by
      cases kind <;> decide
    refine (left.whole_render cx hcx).bind fun _ hl => ?_
    refine (right.whole_render cx hcx).bind fun _ hr => ?_
    refine (condition.whole_render cx hcx).bind fun _ hp => .ok ?_
    exact (hl.between hcx hw hr).between hcx (by decide) hp
  case subSelect s aliasName =>
    rw [Table.render]
    exact (s.whole_render cx hcx).bind fun _ h => .ok (whole_aliased hcx (.parenthesised hcx h) _)
termination_by structural t

theorem Select.whole_render (cx : Context) (hcx : cx.dialect ∈ Dialect.builtins) (s : Select) :
    Yields (Whole cx.dialect) (s.render cx) := by
  cases s
  case mk table columns distinct predicate groups having items offset limit forUpdate =>
    have hselect : Head cx.dialect (words "SELECT " ++ if distinct then words "DISTINCT " else []) := by
      refine .append (.words hcx (by decide)) ?_
      cases distinct
      case false => exact .nil _
      case true => exact .words hcx (by decide)
    rw [Select.render_eq]
    split
    case isTrue => exact .error _
    case isFalse =>
      refine (Select.head_renderTop hcx _ limit offset).bind fun top htop => ?_
      refine (Column.whole_renderAll cx hcx none columns).bind fun projected hprojected => ?_
      refine (table.whole_render cx hcx).bind fun source hsource => ?_
      refine (predicate.tail_renderAfter hcx (predicate.whole_render cx hcx) (by decide)).bind fun _ hfilter => ?_
      refine (Column.tail_renderGrouping cx hcx groups).bind fun _ hgrouping => ?_
      refine (Predicate.tail_renderHaving cx hcx having).bind fun _ hhaving => ?_
      refine (OrderItem.tail_renderOrder cx hcx items).bind fun _ horder => ?_
      refine (Select.tail_renderWindow hcx _ limit offset).bind fun _ hwindow => ?_
      refine (Select.tail_renderForUpdate hcx forUpdate).bind fun _ hlock => .ok ?_
      have hlist : Whole cx.dialect (joined ", " projected) := .joined hcx (by decide) hprojected
      have hfrom := ((hselect.append htop).whole_append hlist).between hcx (w := " FROM ") (by decide) hsource
      have htail := ((((hfilter.append hgrouping).append hhaving).append horder).append hwindow).append hlock
      simpa only [List.append_assoc] using hfrom.append_clause htail.toClause
termination_by structural s

theorem Predicate.tail_renderHaving (cx : Context) (hcx : cx.dialect ∈ Dialect.builtins)
    (p : Option Predicate) : Yields (Tail cx.dialect) (Predicate.renderHaving cx p) := by
  cases p
  case none =>
    rw [Predicate.renderHaving]
    exact .ok (.nil _)
  case some p =>
    rw [Predicate.renderHaving]
    split
    case isTrue => exact .ok (.nil _)
    case isFalse => exact (p.whole_render cx hcx).bind fun _ h => .ok (.after hcx (by decide) h)
termination_by structural p

theorem Column.tail_renderGrouping (cx : Context) (hcx : cx.dialect ∈ Dialect.builtins)
    (cs : Option (List Column)) : Yields (Tail cx.dialect) (Column.renderGrouping cx cs) := by
  cases cs
  case none =>
    rw [Column.renderGrouping]
    exact .ok (.nil _)
  case some cs =>
    rw [Column.renderGrouping]
    exact (Column.whole_renderAll cx hcx none cs).bind fun _ h =>
      .ok (.blank hcx ⟨.after hcx (by decide) (.joined hcx (by decide) h), .after hcx (by decide) _⟩)
termination_by structural cs

theorem OrderItem.tail_renderOrder (cx : Context) (hcx : cx.dialect ∈ Dialect.builtins)
    (os : Option (List OrderItem)) : Yields (Tail cx.dialect) (OrderItem.renderOrder cx os) := by
  cases os
  case none =>
    rw [OrderItem.renderOrder]
    exact .ok (.nil _)
  case some os =>
    rw [OrderItem.renderOrder]
    exact (OrderItem.whole_renderAll cx hcx os).bind fun _ h =>
      .ok (.blank hcx ⟨.after hcx (by decide) (.joined hcx (by decide) h), .after hcx (by decide) _⟩)
termination_by structural os

end

end PolySql
