import PolySql.Proofs.Column.RoundTrip
import PolySql.Proofs.Column.Stored
import PolySql.Proofs.Query.Patterns
import PolySql.Proofs.Sql.Outcome

namespace PolySql

open Fragment

namespace ColumnType

def isOrdinal : ColumnType → Bool
  | enum _ _ .ordinal => true
  | _ => false

variable {t : ColumnType} {d : Dialect} {v x : Value}

theorem passes_of_kind (ht : t.isOrdinal = false) (hv : ∀ k ∈ v.kind?, k = t.kind) (h : ¬t.Refuses v) :
    t.Passes d v := by
  cases t
  case int => cases v <;> first | trivial | exact holds_iff.mpr h | cases hv _ rfl
  case float => cases v <;> first | trivial | exact isFinite_iff.mpr h | cases hv _ rfl
  case string most => cases most <;> cases v <;> first | trivial | exact Nat.not_lt.mp h | cases hv _ rfl
  case timestamp zoned => cases zoned <;> cases v <;> first | trivial | cases hv _ rfl
  case enum name variants storage =>
    cases storage
    case ordinal => cases ht
    case name => cases v <;> first | trivial | exact not_not.mp h | cases hv _ rfl
  all_goals cases v <;> first | trivial | cases hv _ rfl

theorem encode?_of_refuses (hv : ∀ k ∈ v.kind?, k = t.kind) (h : t.Refuses v) : t.encode? d v = none := by
  cases ht : t.isTemporal
  case false => exact (keeps_of_kind ht hv).refused h
  case true =>
    cases t
    case date | time | timestamp => exact h.elim
    all_goals cases ht

-- What a type makes of a value of its kind depends on the dialect alone, once the type holds the value.
theorem encode_eq_stored_iff (ht : t.isOrdinal = false) (hv : ∀ k ∈ v.kind?, k = t.kind) :
    t.encode d v = .ok x ↔ ¬t.Refuses v ∧ x = d.stored v := by
  rw [encode_eq_ok]
  by_cases h : t.Refuses v
  case pos => exact iff_of_false (by simp [encode?_of_refuses hv h]) fun hx => hx.1 h
  case neg =>
    rw [encode?_eq_stored_iff.mpr (passes_of_kind ht hv h), Option.some_inj]
    exact ⟨fun hx => ⟨h, hx.symm⟩, fun hx => hx.2.symm⟩

end ColumnType

variable {t : ColumnType} {cx : Context} {c : Column} {cs : List Column} {f : Fragment} {fs : List Fragment}
  {v : Value}

-- A constant is of the type's kind or `NULL`; any other column will do.
def Column.Suits (t : ColumnType) : Column → Prop
  | param v | literal v => ∀ k ∈ v.kind?, k = t.kind
  | _ => True

theorem Context.stored_none {x : Value} (ht : t.isOrdinal = false) (hv : ∀ k ∈ v.kind?, k = t.kind)
    (h : cx.stored (some t) v = .ok x) : cx.stored none v = .ok x :=
  congrArg Except.ok ((ColumnType.encode_eq_stored_iff ht hv).mp h).2.symm

-- The type that a column is rendered for leaves no trace but in a value that is refused.
theorem Column.render_none (ht : t.isOrdinal = false) (hc : c.Suits t) (h : c.render cx (some t) = .ok f) :
    c.render cx none = .ok f := by
  cases c
  case param v =>
    rw [render, Context.param, Result.bind_eq_ok] at h ⊢
    obtain ⟨x, hx, hf⟩ := h
    exact ⟨x, Context.stored_none ht hc hx, hf⟩
  case literal v =>
    rw [render, Context.literal, Result.bind_eq_ok] at h ⊢
    obtain ⟨x, hx, hf⟩ := h
    exact ⟨x, Context.stored_none ht hc hx, hf⟩
  case star owner =>
    cases owner <;> rwa [render] at h ⊢
  all_goals rwa [render] at h ⊢

theorem Column.renderAll_none (ht : t.isOrdinal = false) (hcs : ∀ c ∈ cs, c.Suits t)
    (h : Column.renderAll cx (some t) cs = .ok fs) : Column.renderAll cx none cs = .ok fs := by
  induction cs generalizing fs
  case nil => rwa [renderAll] at h ⊢
  case cons c cs ih =>
    rw [List.forall_mem_cons] at hcs
    simp only [renderAll, Result.bind_eq_ok] at h ⊢
    obtain ⟨f, hf, fs, hfs, heq⟩ := h
    exact ⟨f, render_none ht hcs.1 hf, fs, ih hcs.2 hfs, heq⟩

-- The type that a function knows for its arguments is the one at hand or none.
theorem Function.render_of_typed {kind : FunctionKind} {distinct : Bool} {window : Option Window}
    (ht : t.isOrdinal = false) (hcs : ∀ c ∈ cs, c.Suits t) (hkind : rendersArguments kind = true)
    (hhint : ∀ u ∈ (mk kind cs distinct window).argumentType? cx.catalog, u = t)
    (h : Column.renderAll cx (some t) cs = .ok fs) :
    (mk kind cs distinct window).render cx = windowed cx kind (call cx kind distinct fs) window := by
  have hargs : renderArguments cx kind cs distinct = .ok fs := by
    rw [renderArguments, if_pos hkind]
    change Column.renderAll cx ((mk kind cs distinct window).argumentType? cx.catalog) cs = .ok fs
    cases hu : (mk kind cs distinct window).argumentType? cx.catalog
    case none => exact Column.renderAll_none ht hcs h
    case some u => rwa [hhint u hu]
  rw [render_eq, hargs]
  rfl

theorem Predicate.render_inList (hne : cs ≠ []) : (inList c cs).render cx = do
    let left ← c.render cx none
    let items ← Column.renderAll cx (c.type? cx.catalog) cs
    return left ++ words " IN " ++ parenthesised (joined ", " items) := by
  rw [Predicate.render]
  exact hne

-- The same list behind a parameter, whose type is unknown, as behind a column of the type.
theorem Predicate.render_inList_param (ht : t.isOrdinal = false) (hcs : ∀ c ∈ cs, c.Suits t)
    (hc : c.type? cx.catalog = some t) (hne : cs ≠ []) (h : (inList c cs).render cx = .ok f) :
    ∃ left behind, c.render cx none = .ok left ∧ f = left ++ behind ∧
      ∀ w, (inList (.param w) cs).render cx = .ok (.param (cx.dialect.stored w) :: behind) := by
  rw [render_inList hne, hc] at h
  simp only [Result.bind_eq_ok] at h
  obtain ⟨left, hleft, items, hitems, hf⟩ := h
  refine ⟨left, words " IN " ++ parenthesised (joined ", " items), hleft, ?_, fun w => ?_⟩
  case refine_1 => rw [← Except.ok.inj hf, List.append_assoc]
  case refine_2 =>
    have hw : (Column.param w).type? cx.catalog = none := by simp [Column.type?]
    rw [render_inList hne, hw, Column.renderAll_none ht hcs hitems, Column.render]
    rfl

-- A value that a column of a type holds has one representation, whether the type is known where the value is bound or
-- not, unless the column is an enumeration that stores positions.
theorem ColumnType.untyped_values_bind_as_stored (ht : t.isOrdinal = false) :
    (∀ (d : Dialect) (v x : Value), (∀ k ∈ v.kind?, k = t.kind) →
      (t.encode d v = .ok x ↔ ¬t.Refuses v ∧ x = d.stored v)) ∧
    (∀ (cx : Context) (v x : Value), (∀ k ∈ v.kind?, k = t.kind) → t.encode cx.dialect v = .ok x →
      (Column.param v).render cx none = .ok [.param x] ∧ (Column.literal v).render cx none = .ok [.literal x]) ∧
    (∀ (cx : Context) (call : Function) (fs : List Fragment), Function.rendersArguments call.kind = true →
      (∀ u ∈ call.argumentType? cx.catalog, u = t) → (∀ c ∈ call.args, c.Suits t) →
      Column.renderAll cx (some t) call.args = .ok fs →
      call.render cx = Function.windowed cx call.kind (Function.call cx call.kind call.distinct fs) call.window) ∧
    ∀ (cx : Context) (c : Column) (cs : List Column) (f : Fragment), c.type? cx.catalog = some t → cs ≠ [] →
      (∀ a ∈ cs, a.Suits t) → (Predicate.inList c cs).render cx = .ok f →
      ∃ left behind, c.render cx none = .ok left ∧ f = left ++ behind ∧
        ∀ w, (Predicate.inList (.param w) cs).render cx = .ok (.param (cx.dialect.stored w) :: behind) := by
  refine ⟨fun d v x hv => encode_eq_stored_iff ht hv, fun cx v x hv hx => ?_, ?_, ?_⟩
  case refine_1 =>
    have hparam : (Column.param v).render cx (some t) = .ok [.param x] := by
      rw [Column.render, Context.param, Context.stored, hx]
      rfl
    have hliteral : (Column.literal v).render cx (some t) = .ok [.literal x] := by
      rw [Column.render, Context.literal, Context.stored, hx]
      rfl
    exact ⟨Column.render_none ht hv hparam, Column.render_none ht hv hliteral⟩
  case refine_2 => exact fun cx ⟨_, _, _, _⟩ fs hkind hhint hcs h => Function.render_of_typed ht hcs hkind hhint h
  case refine_3 => exact fun cx c cs f hc hne hcs h => Predicate.render_inList_param ht hcs hc hne h

theorem ColumnType.price_binds_as_stored :
    let price : Column := .param (.decimal ⟨false, 1250, 2, by decide, by decide⟩)
    let text : Piece := .param (.text "12.50")
    let cx : Context :=
      .new ⟨[⟨"orders", [⟨"price", .decimal none none, false, false, false, none⟩], [], [], []⟩]⟩ .sqlite none
    (decimal none none).encode .sqlite (.decimal ⟨false, 1250, 2, by decide, by decide⟩) = .ok (.text "12.50") ∧
      price.render cx none = .ok [text] ∧
      (Function.mk .max [price] false none).render cx = .ok [.words "MAX", .words "(", text, .words ")"] ∧
      (Predicate.inList price [price]).render cx = .ok [text, .words " IN ", .words "(", text, .words ")"] := by
  intro price text cx
  have ht : (decimal none none).isOrdinal = false := rfl
  have hprice : price.Suits (decimal none none) := by rintro _ ⟨⟩; rfl
  have hall : ∀ c ∈ [price], c.Suits (decimal none none) := by simpa using hprice
  have htyped : Column.renderAll cx (some (decimal none none)) [price] = .ok [[text]] := by
    simp only [Column.renderAll]
    rfl
  have hencode : (decimal none none).encode .sqlite (.decimal ⟨false, 1250, 2, by decide, by decide⟩) =
      .ok (.text "12.50") :=
    ((untyped_values_bind_as_stored ht).1 .sqlite _ _ hprice).mpr ⟨by simp [Refuses], rfl⟩
  refine ⟨hencode, ((untyped_values_bind_as_stored ht).2.1 cx _ _ hprice hencode).1, ?_, ?_⟩
  case refine_1 =>
    have hunknown : ∀ u ∈ (Function.mk .max [price] false none).argumentType? cx.catalog, u = decimal none none := by
      simp [Function.argumentType?]
    exact (untyped_values_bind_as_stored ht).2.2.1 cx ⟨.max, [price], false, none⟩ [[text]] rfl hunknown hall htyped
  case refine_2 =>
    let column : Column := .physical ⟨0, 0⟩ none
    let left : Fragment := [.name "orders", .words ".", .name "price"]
    have hcolumn : column.render cx none = .ok left := by
      rw [Column.render]
      rfl
    have htype : column.type? cx.catalog = some (decimal none none) := by
      rw [Column.type?]
      rfl
    have hlist : (Predicate.inList column [price]).render cx =
        .ok (left ++ [.words " IN ", .words "(", text, .words ")"]) := by
      rw [Predicate.render_inList (List.cons_ne_nil _ _), hcolumn, htype, htyped]
      rfl
    obtain ⟨left', behind, hleft, hbehind, huntyped⟩ :=
      (untyped_values_bind_as_stored ht).2.2.2 cx column [price] _ htype (List.cons_ne_nil _ _) hall hlist
    cases Except.ok.inj (hleft.symm.trans hcolumn)
    rw [List.append_cancel_left hbehind, huntyped]
    rfl

end PolySql
