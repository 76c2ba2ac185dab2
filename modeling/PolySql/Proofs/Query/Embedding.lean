import PolySql.Proofs.Query.Places
import PolySql.Proofs.Sql.Embedding
import PolySql.Proofs.Sql.Rendering

namespace PolySql

open Fragment

-- An item of a list stands between the items before it and those after it.

theorem Column.renderAll_append_cons (cx : Context) (hint : Option ColumnType) (before : List Column) (c : Column)
    (after : List Column) : Column.renderAll cx hint (before ++ c :: after) = do
      let b ← Column.renderAll cx hint before
      let f ← c.render cx hint
      let a ← Column.renderAll cx hint after
      return b ++ f :: a := by
  induction before
  case nil => rfl
  case cons b l ih => simp only [List.cons_append, Column.renderAll, ih, bind_assoc, pure_bind]

theorem OrderItem.renderAll_append_cons (cx : Context) (before : List OrderItem) (item : OrderItem)
    (after : List OrderItem) : OrderItem.renderAll cx (before ++ item :: after) = do
      let b ← OrderItem.renderAll cx before
      let f ← item.render cx
      let a ← OrderItem.renderAll cx after
      return b ++ f :: a := by
  induction before
  case nil => rfl
  case cons b l ih => simp only [List.cons_append, OrderItem.renderAll, ih, bind_assoc, pure_bind]

section

variable {α : Type} {cx : Context} {source : α → Result Fragment} {isWritten : Bool}
variable {k : List Fragment → Result Fragment}

theorem Column.embeds_renderAll {fill : α → Column} {hint : Option ColumnType}
    (h : Embeds isWritten source fun a => (fill a).render cx hint) (before after : List Column)
    (hk : ∀ b a, Embeds true .ok fun f => k (b ++ f :: a)) :
    Embeds isWritten source fun a => Column.renderAll cx hint (before ++ fill a :: after) >>= k := by
  simp only [Column.renderAll_append_cons]
  exact h.item hk

theorem OrderItem.embeds_renderAll {fill : α → Column}
    (h : Embeds isWritten source fun a => (fill a).render cx none) (before after : List OrderItem)
    (direction : Direction) (hk : ∀ b a, Embeds true .ok fun f => k (b ++ f :: a)) :
    Embeds isWritten source fun a => OrderItem.renderAll cx (before ++ ⟨fill a, direction⟩ :: after) >>= k := by
  have hitem : Embeds isWritten source fun a => OrderItem.render cx ⟨fill a, direction⟩ := by
    simp only [OrderItem.render]
    exact h.bind (.of_inserts (Inserts.id.right _))
  simp only [OrderItem.renderAll_append_cons]
  exact hitem.item hk

theorem Column.embeds_renderGrouping {fill : α → Column}
    (h : Embeds isWritten source fun a => (fill a).render cx none) (before after : List Column) :
    Embeds isWritten source fun a => Column.renderGrouping cx (some (before ++ fill a :: after)) := by
  simp only [Column.renderGrouping]
  exact Column.embeds_renderAll h before after fun b a => .of_inserts (((Inserts.id.joined ", " b a).left _).left _)

theorem OrderItem.embeds_renderOrder {fill : α → Column}
    (h : Embeds isWritten source fun a => (fill a).render cx none) (before after : List OrderItem)
    (direction : Direction) :
    Embeds isWritten source fun a => OrderItem.renderOrder cx (some (before ++ ⟨fill a, direction⟩ :: after)) := by
  simp only [OrderItem.renderOrder]
  exact OrderItem.embeds_renderAll h before after direction fun b a =>
    .of_inserts (((Inserts.id.joined ", " b a).left _).left _)

end

-- How an equality with `NULL` is written, if it is one.
def Comparison.isNegated? : Comparison → Option Bool
  | .eq => some false
  | .ne => some true
  | _ => none

theorem Comparison.nullTest?_left {op : Comparison} (h : a.isNull = false) :
    op.nullTest? a b = (if b.isNull then op.isNegated? else none).map (·, a) := by
  cases op <;> simp [nullTest?, isNegated?, h]

theorem Comparison.nullTest?_right {op : Comparison} (h : b.isNull = false) :
    op.nullTest? a b = (if a.isNull then op.isNegated? else none).map (·, b) := by
  cases op <;> simp [nullTest?, isNegated?, h]

section

variable {α : Type} {cx : Context} {source : α → Result Fragment} {isWritten : Bool} {fill : α → Column}
variable {type : Option ColumnType} (h : ∀ hint, Embeds isWritten source fun a => (fill a).render cx hint)
variable (htype : ∀ a, (fill a).type? cx.catalog = type) (hnull : ∀ a, (fill a).isNull = false)

namespace Predicate

-- A comparison in which the place is the column that is tested, if it is written as a test for `NULL`.
theorem embeds_comparison {op : Comparison} {left right : α → Column} {test : Option Bool}
    (hc : Embeds isWritten source fun a => (fill a).render cx none)
    (htest : ∀ a, op.nullTest? (left a) (right a) = test.map (·, fill a))
    (hplain : Embeds isWritten source fun a => do
      let l ← (left a).render cx ((right a).type? cx.catalog)
      let r ← (right a).render cx ((left a).type? cx.catalog)
      return binary l op.text r) :
    Embeds isWritten source fun a => (comparison op (left a) (right a)).render cx := by
  cases test
  case none => exact .congr (fun a => render_comparison_of_none (htest a)) hplain
  case some => exact .congr (fun a => render_comparison_of_some (htest a)) (hc.bind (.of_inserts (Inserts.id.right _)))

section

include h htype hnull

theorem embeds_comparisonLeft (op : Comparison) (right : Column) :
    Embeds isWritten source fun a => (comparison op (fill a) right).render cx := by
  refine embeds_comparison (h none) (fun a => Comparison.nullTest?_left (hnull a)) ?_
  simp only [htype]
  exact (h _).bind (.after fun g => .of_inserts ((Inserts.id.right _).right g))

theorem embeds_comparisonRight (op : Comparison) (left : Column) :
    Embeds isWritten source fun a => (comparison op left (fill a)).render cx := by
  refine embeds_comparison (h none) (fun a => Comparison.nullTest?_right (hnull a)) ?_
  simp only [htype]
  exact .after fun g => (h _).bind (.of_inserts (Inserts.id.left _))

end

section

include h htype

theorem embeds_inColumn (list : List Column) :
    Embeds (!list.isEmpty && isWritten) source fun a => (inList (fill a) list).render cx := by
  cases list
  case nil =>
    simp only [Predicate.render]
    exact .const _
  case cons b r =>
    simp only [Predicate.render, htype]
    exact (h none).bind (.after fun items => .of_inserts ((Inserts.id.right _).right _))

theorem embeds_betweenColumn (low high : Column) :
    Embeds isWritten source fun a => (between (fill a) low high).render cx := by
  simp only [Predicate.render, htype]
  exact (h none).bind (.after fun l => .after fun u => .of_inserts ((((Inserts.id.right _).right l).right _).right u))

theorem embeds_likeColumn (pattern : Column) (caseSensitive : Bool) :
    Embeds isWritten source fun a => (like (fill a) pattern caseSensitive).render cx := by
  simp only [Predicate.render, htype]
  split
  case isTrue => exact (h _).bind (.after fun g => .of_inserts ((Inserts.id.right _).right g))
  case isFalse =>
    exact (h none).bind (.after fun g => .of_inserts ((((Inserts.id.left _).right _).right g).right _))

theorem embeds_likePattern (column : Column) (caseSensitive : Bool) :
    Embeds isWritten source fun a => (like column (fill a) caseSensitive).render cx := by
  simp only [Predicate.render, htype]
  split
  case isTrue => exact .after fun g => (h _).bind (.of_inserts (Inserts.id.left _))
  case isFalse => exact .after fun g => (h none).bind (.of_inserts ((Inserts.id.left _).right _))

end

section

include h

theorem embeds_inItem (column : Column) (before after : List Column) :
    Embeds isWritten source fun a => (inList column (before ++ fill a :: after)).render cx := by
  have hrender (a : α) : (inList column (before ++ fill a :: after)).render cx = do
      let left ← column.render cx none
      let items ← Column.renderAll cx (column.type? cx.catalog) (before ++ fill a :: after)
      return left ++ words " IN " ++ parenthesised (joined ", " items) := by
    rw [Predicate.render]
    simp
  refine .congr hrender (.after fun g => Column.embeds_renderAll (h _) before after fun b a => .of_inserts ?_)
  exact (Inserts.id.joined ", " b a).parenthesised.left _

theorem embeds_betweenLow (column high : Column) :
    Embeds isWritten source fun a => (between column (fill a) high).render cx := by
  simp only [Predicate.render]
  exact .after fun g => (h _).bind (.after fun u => .of_inserts (((Inserts.id.left _).right _).right u))

theorem embeds_betweenHigh (column low : Column) :
    Embeds isWritten source fun a => (between column low (fill a)).render cx := by
  simp only [Predicate.render]
  exact .after fun g => .after fun l => (h _).bind (.of_inserts (Inserts.id.left _))

end

end Predicate

end

section

variable {α : Type} {cx : Context} {source : α → Result Fragment} {isWritten : Bool}

namespace Predicate

variable {fill : α → Predicate} (h : Embeds isWritten source fun a => (fill a).render cx)
variable (halways : ∀ a, (fill a).isAlways = false)

include h halways

theorem embeds_renderAfter (opening : String) :
    Embeds isWritten source fun a => (fill a).renderAfter cx opening := by
  simp only [renderAfter, halways]
  exact h.bind (.of_inserts (Inserts.id.left _))

theorem embeds_renderHaving : Embeds isWritten source fun a => renderHaving cx (some (fill a)) := by
  simp only [renderHaving, halways]
  exact h.bind (.of_inserts (Inserts.id.left _))

end Predicate

end

theorem Function.embeds_windowed {cx : Context} {kind : FunctionKind} {g : Fragment → Fragment} (h : Inserts g)
    (window : Option Window) : Embeds true .ok fun f => windowed cx kind (g f) window := by
  cases window
  case none =>
    exact .ite (.error _) (.of_inserts h)
  case some w => exact .after fun _ => .after fun f => .of_inserts (((h.right _).right f).right _)

-- A query by its parts.
theorem Select.render_mk (cx : Context) (table : Table) (columns : List Column) (distinct : Bool) (predicate : Predicate)
    (groups : Option (List Column)) (having : Option Predicate) (items : Option (List OrderItem))
    (offset limit : Option Int64) (forUpdate : Bool) :
    render cx ⟨table, columns, distinct, predicate, groups, having, items, offset, limit, forUpdate⟩ =
      if columns.isEmpty then .error (.compilation "SELECT must project at least one column")
      else do
        let top ← renderTop cx.dialect.limitStyle limit offset
        let projected ← Column.renderAll cx none columns
        let source ← table.render cx
        let filter ← predicate.renderAfter cx " WHERE "
        let grouping ← Column.renderGrouping cx groups
        let groupFilter ← Predicate.renderHaving cx having
        let order ← OrderItem.renderOrder cx items
        let window ← renderWindow cx.dialect.limitStyle items.isSome limit offset
        let lock ← renderForUpdate cx forUpdate
        return words "SELECT " ++ (if distinct then words "DISTINCT " else []) ++ top ++ joined ", " projected ++
          words " FROM " ++ source ++ filter ++ grouping ++ groupFilter ++ order ++ window ++ lock :=
  render_eq ..

-- What is written around a query at a place is the same for all queries of one type. Of what stands at the place the
-- other parts take only the type, as a hint for how their constants are stored.

mutual

theorem Column.Place.embeds (cx : Context) (type : Option ColumnType) (hint : Option ColumnType) (p : Column.Place) :
    Embeds p.isWritten (fun s : Select.OfType cx.catalog type => s.1.render cx)
      (fun s => (p.fill s).render cx hint) := by
  cases p
  case subSelect p =>
    simp only [Column.Place.fill, Column.render]
    exact (p.embeds cx type).bind (.of_inserts Inserts.id.parenthesised)
  case function p =>
    simp only [Column.Place.fill, Column.render]
    exact p.embeds cx type
termination_by structural p

theorem Function.Place.embeds (cx : Context) (type : Option ColumnType) (p : Function.Place) :
    Embeds p.isWritten (fun s : Select.OfType cx.catalog type => s.1.render cx) (fun s => (p.fill s).render cx) := by
  cases p
  case argument kind before p after distinct window =>
    obtain ⟨t, ht⟩ := Function.Place.argumentType?_fill cx.catalog type kind before p after distinct
    simp only [Function.Place.fill, Function.render_eq, Function.renderArguments, ht, Function.Place.isWritten]
    cases hkind : Function.rendersArguments kind
    case false => exact .const _
    case true =>
      simp only [if_true, bind_assoc, pure_bind, Bool.true_and]
      exact Column.embeds_renderAll (p.embeds cx type t) before after fun b a =>
        Function.embeds_windowed (inserts_call hkind distinct b a) window
  case window kind args distinct p =>
    simp only [Function.Place.fill, Function.render_eq, Function.windowed]
    exact .after fun call => .after fun _ => (p.embeds cx type).bind (.of_inserts ((Inserts.id.left _).right _))
termination_by structural p

theorem Window.Place.embeds (cx : Context) (type : Option ColumnType) (p : Window.Place) :
    Embeds p.isWritten (fun s : Select.OfType cx.catalog type => s.1.render cx) (fun s => (p.fill s).render cx) := by
  have hne (b a : List Fragment) (f : Fragment) : (b ++ f :: a).isEmpty = false := by simp
  cases p
  case partition before p after order =>
    simp only [Window.Place.fill, Window.render]
    refine Column.embeds_renderAll (p.embeds cx type none) before after fun b a => .after fun items => .of_inserts ?_
    simp only [hne]
    exact ((((Inserts.id.joined ", " b a).left _).right _).right _)
  case order partition before p direction after =>
    simp only [Window.Place.fill, Window.render]
    refine .after fun columns => ?_
    refine OrderItem.embeds_renderAll (p.embeds cx type none) before after direction fun b a => .of_inserts ?_
    simp only [hne]
    exact ((Inserts.id.joined ", " b a).left _).left _
termination_by structural p

theorem Predicate.Place.embeds (cx : Context) (type : Option ColumnType) (p : Predicate.Place) :
    Embeds p.isWritten (fun s : Select.OfType cx.catalog type => s.1.render cx) (fun s => (p.fill s).render cx) := by
  cases p
  case comparisonLeft op p right =>
    obtain ⟨t, ht⟩ := p.type?_fill cx.catalog type
    exact Predicate.embeds_comparisonLeft (fun hint => p.embeds cx type hint) ht (fun s => p.isNull_fill s) op right
  case comparisonRight op left p =>
    obtain ⟨t, ht⟩ := p.type?_fill cx.catalog type
    exact Predicate.embeds_comparisonRight (fun hint => p.embeds cx type hint) ht (fun s => p.isNull_fill s) op left
  case inColumn p list =>
    obtain ⟨t, ht⟩ := p.type?_fill cx.catalog type
    exact Predicate.embeds_inColumn (fun hint => p.embeds cx type hint) ht list
  case inItem column before p after =>
    exact Predicate.embeds_inItem (fun hint => p.embeds cx type hint) column before after
  case betweenColumn p low high =>
    obtain ⟨t, ht⟩ := p.type?_fill cx.catalog type
    exact Predicate.embeds_betweenColumn (fun hint => p.embeds cx type hint) ht low high
  case betweenLow column p high =>
    exact Predicate.embeds_betweenLow (fun hint => p.embeds cx type hint) column high
  case betweenHigh column low p =>
    exact Predicate.embeds_betweenHigh (fun hint => p.embeds cx type hint) column low
  case likeColumn p pattern caseSensitive =>
    obtain ⟨t, ht⟩ := p.type?_fill cx.catalog type
    exact Predicate.embeds_likeColumn (fun hint => p.embeds cx type hint) ht pattern caseSensitive
  case likePattern column p caseSensitive =>
    obtain ⟨t, ht⟩ := p.type?_fill cx.catalog type
    exact Predicate.embeds_likePattern (fun hint => p.embeds cx type hint) ht column caseSensitive
  case startsWithColumn p text =>
    simp only [Predicate.Place.fill, Predicate.render]
    exact (p.embeds cx type none).bind (.after fun g => .of_inserts ((Inserts.id.right _).right _))
  case startsWithText column p =>
    simp only [Predicate.Place.fill, Predicate.render]
    exact .after fun g => (p.embeds cx type none).bind (.of_inserts ((inserts_withSuffix .id).left _))
  case endsWithColumn p text =>
    simp only [Predicate.Place.fill, Predicate.render]
    exact (p.embeds cx type none).bind (.after fun g => .of_inserts ((Inserts.id.right _).right _))
  case endsWithText column p =>
    simp only [Predicate.Place.fill, Predicate.render]
    exact .after fun g => (p.embeds cx type none).bind (.of_inserts ((inserts_withStart .id).left _))
  case existsRow p =>
    simp only [Predicate.Place.fill, Predicate.render]
    exact (p.embeds cx type).bind (.of_inserts (Inserts.id.parenthesised.left _))
  case andLeft p right =>
    simp only [Predicate.Place.fill, Predicate.render]
    exact (p.embeds cx type).bind (.after fun g => .of_inserts ((Inserts.id.right _).right g).parenthesised)
  case andRight left p =>
    simp only [Predicate.Place.fill, Predicate.render]
    exact .after fun g => (p.embeds cx type).bind (.of_inserts (Inserts.id.left _).parenthesised)
  case orLeft p right =>
    simp only [Predicate.Place.fill, Predicate.render]
    exact (p.embeds cx type).bind (.after fun g => .of_inserts ((Inserts.id.right _).right g).parenthesised)
  case orRight left p =>
    simp only [Predicate.Place.fill, Predicate.render]
    exact .after fun g => (p.embeds cx type).bind (.of_inserts (Inserts.id.left _).parenthesised)
  case not p =>
    simp only [Predicate.Place.fill, Predicate.render]
    exact (p.embeds cx type).bind (.of_inserts (Inserts.id.parenthesised.left _))
termination_by structural p

theorem Table.Place.embeds (cx : Context) (type : Option ColumnType) (p : Table.Place) :
    Embeds p.isWritten (fun s : Select.OfType cx.catalog type => s.1.render cx) (fun s => (p.fill s).render cx) := by
  cases p
  case joinLeft kind p right condition =>
    simp only [Table.Place.fill, Table.render]
    exact (p.embeds cx type).bind (.after fun r => .after fun c =>
      .of_inserts ((((Inserts.id.right _).right r).right _).right c))
  case joinRight kind left p condition =>
    simp only [Table.Place.fill, Table.render]
    exact .after fun l => (p.embeds cx type).bind (.after fun c => .of_inserts (((Inserts.id.left _).right _).right c))
  case joinOn kind left right p =>
    simp only [Table.Place.fill, Table.render]
    exact .after fun l => .after fun r => (p.embeds cx type).bind (.of_inserts (Inserts.id.left _))
  case subSelect p aliasName =>
    simp only [Table.Place.fill, Table.render]
    exact (p.embeds cx type).bind (.of_inserts (Inserts.id.parenthesised.right _))
termination_by structural p

theorem Select.Place.embeds (cx : Context) (type : Option ColumnType) (p : Select.Place) :
    Embeds p.isWritten (fun s : Select.OfType cx.catalog type => s.1.render cx) (fun s => (p.fill s).render cx) := by
  cases p
  case here => exact .self _
  case table outer p =>
    refine .congr (fun s => Select.render_mk ..) ?_
    refine .ite (.error _) ?_
    refine .after fun top => .after fun projected => (p.embeds cx type).bind ?_
    refine .after fun filter => .after fun grouping => .after fun groupFilter => .after fun order => .after fun window =>
      .after fun lock => .of_inserts ?_
    exact ((((((Inserts.id.left _).right _).right _).right _).right _).right _).right _
  case column outer before p after =>
    have hne (s : Select) : (before ++ p.fill s :: after).isEmpty = false := by simp
    refine .congr (fun s => Select.render_mk ..) ?_
    simp only [hne]
    refine .after fun top => ?_
    refine Column.embeds_renderAll (p.embeds cx type none) before after fun b a => ?_
    refine .after fun source => .after fun filter => .after fun grouping => .after fun groupFilter => .after fun order =>
      .after fun window => .after fun lock => .of_inserts ?_
    have hlist := (Inserts.id.joined ", " b a).left
      (words "SELECT " ++ (if outer.distinct then words "DISTINCT " else []) ++ top)
    exact (((((((hlist.right _).right _).right _).right _).right _).right _).right _).right _
  case predicate outer p =>
    refine .congr (fun s => Select.render_mk ..) ?_
    refine .ite (.error _) ?_
    refine .after fun top => .after fun projected => .after fun source =>
      (Predicate.embeds_renderAfter (p.embeds cx type) (fun s => p.isAlways_fill s) _).bind ?_
    refine .after fun grouping => .after fun groupFilter => .after fun order => .after fun window =>
      .after fun lock => .of_inserts ?_
    exact (((((Inserts.id.left _).right _).right _).right _).right _).right _
  case grouping outer before p after =>
    refine .congr (fun s => Select.render_mk ..) ?_
    refine .ite (.error _) ?_
    refine .after fun top => .after fun projected => .after fun source => .after fun filter =>
      (Column.embeds_renderGrouping (p.embeds cx type none) before after).bind ?_
    refine .after fun groupFilter => .after fun order => .after fun window => .after fun lock => .of_inserts ?_
    exact ((((Inserts.id.left _).right _).right _).right _).right _
  case having outer p =>
    refine .congr (fun s => Select.render_mk ..) ?_
    refine .ite (.error _) ?_
    refine .after fun top => .after fun projected => .after fun source => .after fun filter => .after fun grouping =>
      (Predicate.embeds_renderHaving (p.embeds cx type) (fun s => p.isAlways_fill s)).bind ?_
    refine .after fun order => .after fun window => .after fun lock => .of_inserts ?_
    exact (((Inserts.id.left _).right _).right _).right _
  case order outer before p direction after =>
    refine .congr (fun s => Select.render_mk ..) ?_
    simp only [Option.isSome_some]
    refine .ite (.error _) ?_
    refine .after fun top => .after fun projected => .after fun source => .after fun filter => .after fun grouping =>
      .after fun groupFilter => (OrderItem.embeds_renderOrder (p.embeds cx type none) before after direction).bind ?_
    refine .after fun window => .after fun lock => .of_inserts ?_
    exact ((Inserts.id.left _).right _).right _
termination_by structural p

end

end PolySql
