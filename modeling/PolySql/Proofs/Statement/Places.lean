import PolySql.Proofs.Query.Embedding
import PolySql.Statement.Basic

namespace PolySql

open Fragment

-- The places in a statement at which a query stands. The part of the outer statement in which the place lies is
-- overwritten.
inductive Statement.Place
  | select (p : Select.Place)
  | insertCell (outer : Insert) (rowsBefore : List (List Column)) (before : List Column) (p : Column.Place)
    (after : List Column) (rowsAfter : List (List Column))
  | insertReturning (outer : Insert) (before : List Column) (p : Column.Place) (after : List Column)
  | updateValue (outer : Update) (before : List (ColumnId × Column)) (id : ColumnId) (p : Column.Place)
    (after : List (ColumnId × Column))
  | updateFilter (outer : Update) (p : Predicate.Place)
  | updateReturning (outer : Update) (before : List Column) (p : Column.Place) (after : List Column)
  | deleteFilter (outer : Delete) (p : Predicate.Place)
  | deleteReturning (outer : Delete) (before : List Column) (p : Column.Place) (after : List Column)

namespace Statement.Place

def fill (s : Select) : Statement.Place → Statement
  | select p => .select (p.fill s)
  | insertCell outer rowsBefore before p after rowsAfter =>
    .insert { outer with rows := rowsBefore ++ (before ++ p.fill s :: after) :: rowsAfter }
  | insertReturning outer before p after => .insert { outer with returning := before ++ p.fill s :: after }
  | updateValue outer before id p after => .update { outer with values := before ++ (id, p.fill s) :: after }
  | updateFilter outer p => .update { outer with predicate := p.fill s }
  | updateReturning outer before p after => .update { outer with returning := before ++ p.fill s :: after }
  | deleteFilter outer p => .delete { outer with predicate := p.fill s }
  | deleteReturning outer before p after => .delete { outer with returning := before ++ p.fill s :: after }

-- Of a row that is longer than the list of columns the end is not written.
def isWritten : Statement.Place → Bool
  | select p => p.isWritten
  | insertCell outer _ before p _ _ => decide (before.length < outer.columns.length) && p.isWritten
  | updateValue _ _ _ p _ => p.isWritten
  | updateFilter _ p | deleteFilter _ p => p.isWritten
  | insertReturning _ _ p _ | updateReturning _ _ p _ | deleteReturning _ _ p _ => p.isWritten

-- Does the place lie in a list of returned columns?
def isReturned : Statement.Place → Bool
  | insertReturning .. | updateReturning .. | deleteReturning .. => true
  | select _ | insertCell .. | updateValue .. | updateFilter .. | deleteFilter .. => false

-- Returned columns are named without their table, and so is every column of a query among them.
def context (cx : Context) (p : Statement.Place) : Context :=
  if p.isReturned then cx.unqualified else cx

end Statement.Place

section

variable {α : Type} {cx : Context} {source : α → Result Fragment} {isWritten : Bool} {fill : α → Column}

theorem embeds_renderReturning (h : Embeds isWritten source fun a => (fill a).render cx.unqualified none)
    (before after : List Column) :
    Embeds isWritten source fun a => renderReturning cx (before ++ fill a :: after) := by
  have hne (a : α) : (before ++ fill a :: after).isEmpty = false := by simp
  simp only [renderReturning, hne]
  exact .after fun _ => Column.embeds_renderAll h before after fun b a => .of_inserts
    ((Inserts.id.joined ", " b a).left _)

theorem Result.mapM_append_cons {β γ : Type} (f : β → Result γ) (before : List β) (b : β) (after : List β) :
    (before ++ b :: after).mapM f = do
      let cs ← before.mapM f
      let c ← f b
      let ds ← after.mapM f
      return cs ++ c :: ds := by
  simp only [List.mapM_append, List.mapM_cons, bind_assoc, pure_bind]

namespace Insert

theorem renderCells_append_cons {columns : List ColumnId} {id : ColumnId} (before : List Column) (c : Column)
    (after : List Column) (h : columns[before.length]? = some id) : renderCells cx columns (before ++ c :: after) = do
      let b ← renderCells cx columns before
      let f ← c.render cx (cx.catalog.columnType? id)
      let a ← renderCells cx (columns.drop (before.length + 1)) after
      return b ++ f :: a := by
  induction before generalizing columns
  case nil =>
    obtain ⟨ids, rfl⟩ : ∃ ids, columns = id :: ids := by
      cases columns
      case nil => nomatch h
      case cons i r => exact ⟨r, congrArg (· :: r) (Option.some.inj h)⟩
    rfl
  case cons b l ih =>
    cases columns
    case nil => nomatch h
    case cons i r =>
      simp only [List.length_cons, List.getElem?_cons_succ] at h
      simp only [List.cons_append, renderCells, ih h, bind_assoc, pure_bind, List.length_cons, List.drop_succ_cons]

theorem renderCells_append {columns : List ColumnId} {before : List Column} (h : columns.length ≤ before.length)
    (after : List Column) : renderCells cx columns (before ++ after) = renderCells cx columns before := by
  induction before generalizing columns
  case nil =>
    obtain rfl := List.length_eq_zero_iff.mp (Nat.le_zero.mp h)
    rfl
  case cons b l ih =>
    cases columns
    case nil => rfl
    case cons i r => simp only [List.cons_append, renderCells, ih (Nat.le_of_succ_le_succ h)]

section

variable (h : ∀ hint, Embeds isWritten source fun a => (fill a).render cx hint)

include h

theorem embeds_renderRow (columns : List ColumnId) (before after : List Column) :
    Embeds (decide (before.length < columns.length) && isWritten) source
      fun a => renderRow cx columns (before ++ fill a :: after) := by
  cases hlt : decide (before.length < columns.length)
  case false =>
    rw [decide_eq_false_iff_not, Nat.not_lt] at hlt
    simp only [renderRow, renderCells_append hlt]
    exact .const _
  case true =>
    have hid := List.getElem?_eq_getElem (of_decide_eq_true hlt)
    simp only [renderRow, renderCells_append_cons before _ after hid]
    refine (h _).item fun b a => ?_
    exact .of_inserts (Inserts.id.joined ", " b a)

theorem embeds_renderValues (columns : List ColumnId) (rowsBefore : List (List Column)) (before after : List Column)
    (rowsAfter : List (List Column)) :
    Embeds (decide (before.length < columns.length) && isWritten) source
      fun a => renderValues cx columns (rowsBefore ++ (before ++ fill a :: after) :: rowsAfter) := by
  have hlength (a : α) : (rowsBefore ++ (before ++ fill a :: after) :: rowsAfter).length =
      rowsBefore.length + (rowsAfter.length + 1) := by
    simp
  simp only [renderValues, hlength]
  cases columns
  case nil => exact .const _
  case cons id ids =>
    have htuples : Embeds (decide (before.length < (id :: ids).length) && isWritten) source fun a => do
        let tuples ← (rowsBefore ++ (before ++ fill a :: after) :: rowsAfter).mapM (renderRow cx (id :: ids))
        return words " " ++ columnList cx (id :: ids) ++ words " VALUES " ++ parenthesised (joined "), (" tuples) := by
      simp only [Result.mapM_append_cons]
      refine (embeds_renderRow h (id :: ids) before after).item fun b a => ?_
      exact .of_inserts ((Inserts.id.joined "), (" b a).parenthesised.left _)
    simp only [List.isEmpty_cons, Bool.false_eq_true, if_false]
    exact .ite (.after fun _ => htuples) htuples

end

end Insert

namespace Update

theorem checkValues_append_cons (c : Catalog) (table : TableId) (seen : List ColumnId)
    (before : List (ColumnId × Column)) {id : ColumnId} {v w : Column} (after : List (ColumnId × Column))
    (hnull : v.isNullConstant = w.isNullConstant) :
    checkValues c table seen (before ++ (id, v) :: after) = checkValues c table seen (before ++ (id, w) :: after) := by
  induction before generalizing seen
  case nil => simp only [List.nil_append, checkValues, hnull]
  case cons b l ih => simp only [List.cons_append, checkValues, ih]

-- An assignment.
def renderValue (cx : Context) (id : ColumnId) (value : Column) : Result Fragment := do
  return name (cx.catalog.columnName id) ++ words " = " ++ (← value.render cx (cx.catalog.columnType? id))

theorem renderValues_append_cons (cx : Context) (before : List (ColumnId × Column)) (id : ColumnId) (value : Column)
    (after : List (ColumnId × Column)) : renderValues cx (before ++ (id, value) :: after) = do
      let b ← renderValues cx before
      let f ← renderValue cx id value
      let a ← renderValues cx after
      return b ++ f :: a := by
  induction before
  case nil =>
    simp only [List.nil_append, renderValues, renderValue, bind_assoc, pure_bind]
    rfl
  case cons b l ih => simp only [List.cons_append, renderValues, ih, bind_assoc, pure_bind]

theorem embeds_renderValues {k : List Fragment → Result Fragment}
    (h : ∀ hint, Embeds isWritten source fun a => (fill a).render cx hint) (before : List (ColumnId × Column))
    (id : ColumnId) (after : List (ColumnId × Column)) (hk : ∀ b a, Embeds true .ok fun f => k (b ++ f :: a)) :
    Embeds isWritten source fun a => renderValues cx (before ++ (id, fill a) :: after) >>= k := by
  have hvalue : Embeds isWritten source fun a => renderValue cx id (fill a) :=
    (h _).bind (.of_inserts (Inserts.id.left _))
  simp only [renderValues_append_cons]
  exact hvalue.item hk

end Update

end

-- The command of a statement is made of a fragment in which a query stands as it is written with the context of its
-- place.
theorem Statement.Place.exists_embeds (cx : Context) (type : Option ColumnType) (p : Statement.Place) :
    ∃ r, (∀ s : Select.OfType cx.catalog type, (p.fill s).compile cx = r s >>= cx.command) ∧
      Embeds p.isWritten (fun s => s.1.render (p.context cx)) r := by
  cases p
  case select p => exact ⟨_, fun s => rfl, p.embeds cx type⟩
  case insertCell outer rowsBefore before p after rowsAfter =>
    refine ⟨_, fun s => rfl, ?_⟩
    simp only [Insert.render]
    refine (Insert.embeds_renderValues (fun hint => p.embeds cx type hint) _ rowsBefore before after rowsAfter).bind ?_
    exact .after fun conflict => .after fun returned => .of_inserts (((Inserts.id.left _).right _).right _)
  case insertReturning outer before p after =>
    refine ⟨_, fun s => rfl, ?_⟩
    simp only [Insert.render]
    refine .after fun values => .after fun conflict =>
      (embeds_renderReturning (p.embeds cx.unqualified type none) before after).bind ?_
    exact .of_inserts (Inserts.id.left _)
  case updateValue outer before id p after =>
    refine ⟨_, fun s => rfl, ?_⟩
    have hne (s : Select) : (before ++ (id, p.fill s) :: after).isEmpty = false := by simp
    have hcheck (s : Select) : Update.checkValues cx.catalog outer.table [] (before ++ (id, p.fill s) :: after) =
        Update.checkValues cx.catalog outer.table [] (before ++ (id, .star none) :: after) :=
      Update.checkValues_append_cons _ _ _ before after (p.isNullConstant_fill s)
    simp only [Update.render, hne, hcheck]
    refine .after fun _ => .after fun top => ?_
    refine Update.embeds_renderValues (fun hint => p.embeds cx type hint) before id after fun b a => ?_
    refine .after fun filter => .after fun limit => .after fun returned => .of_inserts ?_
    exact ((((Inserts.id.joined ", " b a).left _).right _).right _).right _
  case updateFilter outer p =>
    refine ⟨_, fun s => rfl, ?_⟩
    simp only [Update.render]
    refine .ite (.error _) (.after fun _ => .after fun top => .after fun values => ?_)
    refine (Predicate.embeds_renderAfter (p.embeds cx type) (fun s => p.isAlways_fill s) _).bind ?_
    exact .after fun limit => .after fun returned => .of_inserts (((Inserts.id.left _).right _).right _)
  case updateReturning outer before p after =>
    refine ⟨_, fun s => rfl, ?_⟩
    simp only [Update.render]
    refine .ite (.error _) (.after fun _ => .after fun top => .after fun values => .after fun filter =>
      .after fun limit => ?_)
    refine (embeds_renderReturning (p.embeds cx.unqualified type none) before after).bind ?_
    exact .of_inserts (Inserts.id.left _)
  case deleteFilter outer p =>
    refine ⟨_, fun s => rfl, ?_⟩
    simp only [Delete.render]
    refine .after fun top => ?_
    refine (Predicate.embeds_renderAfter (p.embeds cx type) (fun s => p.isAlways_fill s) _).bind ?_
    exact .after fun limit => .after fun returned => .of_inserts (((Inserts.id.left _).right _).right _)
  case deleteReturning outer before p after =>
    refine ⟨_, fun s => rfl, ?_⟩
    simp only [Delete.render]
    refine .after fun top => .after fun filter => .after fun limit => ?_
    refine (embeds_renderReturning (p.embeds cx.unqualified type none) before after).bind ?_
    exact .of_inserts (Inserts.id.left _)

end PolySql
