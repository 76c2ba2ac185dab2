import PolySql.Dialect.Builtin
import PolySql.Proofs.Sql.Rendering

namespace PolySql

-- An older server's result is the newer one's, or the older server cannot do what is asked.
def Persists {α : Type} (dialect : String) (older newer : Result α) : Prop :=
  older = newer ∨ ∃ operation, older = .error (.unsupported dialect operation)

namespace Persists

variable {α β : Type} {dialect : String} {older newer : Result α}

theorem refl (r : Result α) : Persists dialect r r :=
  .inl rfl

theorem bind {f g : α → Result β} (h : Persists dialect older newer) (hf : ∀ a, Persists dialect (f a) (g a)) :
    Persists dialect (older >>= f) (newer >>= g) := by
  rcases h with rfl | ⟨operation, rfl⟩
  case inr => exact .inr ⟨operation, rfl⟩
  case inl =>
    cases older
    case error e => exact .inl rfl
    case ok a => exact hf a

-- What would have come after a failure does not matter.
theorem throw_bind (e : DatabaseError) (f g : α → Result β) :
    Persists dialect (throw e >>= f) (throw e >>= g) :=
  .inl rfl

theorem mapM {f g : α → Result β} (h : ∀ a, Persists dialect (f a) (g a)) (as : List α) :
    Persists dialect (as.mapM f) (as.mapM g) := by
  induction as
  case nil => exact .refl _
  case cons a as ih =>
    rw [List.mapM_cons, List.mapM_cons]
    exact (h a).bind fun _ => ih.bind fun _ => .refl _

theorem of_ok {a : α} (h : Persists dialect older newer) (ha : older = .ok a) : newer = .ok a := by
  rcases h with rfl | ⟨operation, h⟩
  case inl => exact ha
  case inr => nomatch h.symm.trans ha

theorem of_error {a : α} {e : DatabaseError} (h : Persists dialect older newer) (ha : newer = .ok a)
    (he : older = .error e) : ∃ operation, e = .unsupported dialect operation := by
  rcases h with rfl | ⟨operation, h⟩
  case inl => nomatch ha.symm.trans he
  case inr => exact ⟨operation, Except.error.inj (he.symm.trans h)⟩

end Persists

namespace Version

theorem order_eq_lt {a b : Version} : a.order b = .lt ↔
    a.major < b.major ∨ a.major = b.major ∧ (a.minor < b.minor ∨ a.minor = b.minor ∧ a.patch < b.patch) := by
  simp [order, Ordering.then_eq_lt, Std.compare_eq_lt]

theorem atLeast_trans {a b c : Version} (hab : a.atLeast b = true) (hbc : b.atLeast c = true) :
    a.atLeast c = true := by
  simp only [atLeast, bne_iff_ne, ne_eq, order_eq_lt, UInt32.lt_iff_toNat_lt, ← UInt32.toNat_inj] at *
  omega

end Version

namespace Dialect

variable {d : Dialect}

theorem isSupported_upgrade {c : Capability} {v : Version} {w : Option Version}
    (hw : ∀ newer ∈ w, newer.atLeast v = true) (h : d.isSupported (some v) c = true) : d.isSupported w c = true := by
  unfold isSupported at h ⊢
  rw [Bool.and_eq_true] at h ⊢
  refine ⟨h.1, ?_⟩
  cases hr : d.requires c
  case none => rfl
  case some required =>
    cases w
    case none => rfl
    case some newer =>
      rw [hr] at h
      exact Version.atLeast_trans (hw newer rfl) h.2

-- What a statement is written with, or how it is cut in pieces, does not hang on the version.
theorem isSupported_of_choice (hd : d ∈ builtins) (hc : c = .caseInsensitiveLike ∨ c = .multiRowInsert)
    (v w : Option Version) : d.isSupported v c = d.isSupported w c := by
  have hrequires : ∀ d ∈ builtins, d.requires .caseInsensitiveLike = none ∧ d.requires .multiRowInsert = none := by
    decide
  rcases hc with rfl | rfl
  case inl => simp [isSupported, (hrequires d hd).1]
  case inr => simp [isSupported, (hrequires d hd).2]

end Dialect

namespace Context

def on (cx : Context) (version : Option Version) : Context :=
  { cx with version := version }

theorem on_catalog (cx : Context) (version : Option Version) : (cx.on version).catalog = cx.catalog :=
  rfl

-- The newer server can do what the older one can, and leaves the choices of how to write a statement as they are.
structure Upgrades (cx : Context) (newer : Option Version) : Prop where
  supports : ∀ c, cx.supports c = true → (cx.on newer).supports c = true
  like_eq : (cx.on newer).supports .caseInsensitiveLike = cx.supports .caseInsensitiveLike
  multiRowInsert_eq : (cx.on newer).supports .multiRowInsert = cx.supports .multiRowInsert

variable {cx : Context} {newer : Option Version}

theorem Upgrades.of_atLeast {c : Catalog} {d : Dialect} (hd : d ∈ Dialect.builtins) {v : Version} {w : Option Version}
    (hw : ∀ newer ∈ w, newer.atLeast v = true) : (new c d (some v)).Upgrades w where
  supports := fun _ => Dialect.isSupported_upgrade hw
  like_eq := Dialect.isSupported_of_choice hd (.inl rfl) w (some v)
  multiRowInsert_eq := Dialect.isSupported_of_choice hd (.inr rfl) w (some v)

theorem Upgrades.unqualified (h : cx.Upgrades newer) : cx.unqualified.Upgrades newer :=
  ⟨h.supports, h.like_eq, h.multiRowInsert_eq⟩

theorem persists_require (h : cx.Upgrades newer) (c : Capability) (operation : String) :
    Persists cx.dialect.name (cx.require c operation) ((cx.on newer).require c operation) := by
  cases hc : cx.supports c
  case false => exact .inr ⟨operation, by rw [require, hc]; rfl⟩
  case true =>
    rw [require, require, hc, h.supports c hc]
    exact .refl _

end Context

variable {cx : Context} {newer : Option Version} (h : cx.Upgrades newer)

include h in
theorem Select.persists_renderForUpdate (forUpdate : Bool) :
    Persists cx.dialect.name (renderForUpdate cx forUpdate) (renderForUpdate (cx.on newer) forUpdate) := by
  cases forUpdate
  case false => exact .refl _
  case true => exact (Context.persists_require h _ _).bind fun _ => .refl _

theorem Predicate.persists_renderAfter {p : Predicate} (opening : String)
    (hp : Persists cx.dialect.name (p.render cx) (p.render (cx.on newer))) :
    Persists cx.dialect.name (p.renderAfter cx opening) (p.renderAfter (cx.on newer) opening) := by
  rw [renderAfter, renderAfter]
  split
  case isTrue => exact .refl _
  case isFalse => exact hp.bind fun _ => .refl _

section

variable {a b : Column}
  (ha : ∀ hint, Persists cx.dialect.name (a.render cx hint) (a.render (cx.on newer) hint))
  (hb : ∀ hint, Persists cx.dialect.name (b.render cx hint) (b.render (cx.on newer) hint))

include ha hb

theorem Predicate.persists_comparison (op : Comparison) : Persists cx.dialect.name
    ((comparison op a b).render cx) ((comparison op a b).render (cx.on newer)) := by
  rcases hn : op.nullTest? a b with _ | ⟨isNegated, c⟩
  case none =>
    rw [render_comparison_of_none hn, render_comparison_of_none hn]
    exact (ha _).bind fun _ => (hb _).bind fun _ => .refl _
  case some =>
    rw [render_comparison_of_some hn, render_comparison_of_some hn]
    rcases Comparison.eq_of_nullTest? hn with rfl | rfl
    case inl => exact (ha none).bind fun _ => .refl _
    case inr => exact (hb none).bind fun _ => .refl _

include h in
theorem Predicate.persists_like (caseSensitive : Bool) : Persists cx.dialect.name
    ((like a b caseSensitive).render cx) ((like a b caseSensitive).render (cx.on newer)) := by
  rw [Predicate.render, Predicate.render, h.like_eq]
  split
  case isTrue => exact (ha _).bind fun _ => (hb _).bind fun _ => .refl _
  case isFalse => exact (ha _).bind fun _ => (hb _).bind fun _ => .refl _

end

mutual

theorem Column.persists_render {cx : Context} {newer : Option Version} (h : cx.Upgrades newer)
    (hint : Option ColumnType) (c : Column) :
    Persists cx.dialect.name (c.render cx hint) (c.render (cx.on newer) hint) := by
  cases c
  case subSelect s =>
    rw [Column.render, Column.render]
    exact (s.persists_render h).bind fun _ => .refl _
  case function f =>
    rw [Column.render, Column.render]
    exact f.persists_render h
  case star table => cases table <;> exact .refl _
  all_goals exact .refl _
termination_by structural c

theorem Column.persists_renderAll {cx : Context} {newer : Option Version} (h : cx.Upgrades newer)
    (hint : Option ColumnType) (cs : List Column) :
    Persists cx.dialect.name (Column.renderAll cx hint cs) (Column.renderAll (cx.on newer) hint cs) := by
  cases cs
  case nil => exact .refl _
  case cons a r =>
    rw [Column.renderAll, Column.renderAll]
    exact (a.persists_render h hint).bind fun _ => (Column.persists_renderAll h hint r).bind fun _ => .refl _
termination_by structural cs

theorem Function.persists_render {cx : Context} {newer : Option Version} (h : cx.Upgrades newer) (f : Function) :
    Persists cx.dialect.name (f.render cx) (f.render (cx.on newer)) := by
  cases f
  case mk kind args distinct window =>
    rw [Function.render_eq, Function.render_eq]
    have hargs : Persists cx.dialect.name (Function.renderArguments cx kind args distinct)
        (Function.renderArguments (cx.on newer) kind args distinct) := by
      rw [Function.renderArguments, Function.renderArguments]
      split
      case isTrue => exact Column.persists_renderAll h _ args
      case isFalse => exact .refl _
    refine (hargs.bind fun _ => .refl _).bind fun call => ?_
    cases window
    case none => exact .refl _
    case some w =>
      exact (Context.persists_require h _ _).bind fun _ => (w.persists_render h).bind fun _ => .refl _
termination_by structural f

theorem Window.persists_render {cx : Context} {newer : Option Version} (h : cx.Upgrades newer) (w : Window) :
    Persists cx.dialect.name (w.render cx) (w.render (cx.on newer)) := by
  cases w
  case mk partition order =>
    rw [Window.render, Window.render]
    exact (Column.persists_renderAll h none partition).bind fun _ =>
      (OrderItem.persists_renderAll h order).bind fun _ => .refl _
termination_by structural w

theorem OrderItem.persists_render {cx : Context} {newer : Option Version} (h : cx.Upgrades newer) (o : OrderItem) :
    Persists cx.dialect.name (o.render cx) (o.render (cx.on newer)) := by
  cases o
  case mk column direction =>
    rw [OrderItem.render, OrderItem.render]
    exact (column.persists_render h none).bind fun _ => .refl _
termination_by structural o

theorem OrderItem.persists_renderAll {cx : Context} {newer : Option Version} (h : cx.Upgrades newer)
    (os : List OrderItem) :
    Persists cx.dialect.name (OrderItem.renderAll cx os) (OrderItem.renderAll (cx.on newer) os) := by
  cases os
  case nil => exact .refl _
  case cons a r =>
    rw [OrderItem.renderAll, OrderItem.renderAll]
    exact (a.persists_render h).bind fun _ => (OrderItem.persists_renderAll h r).bind fun _ => .refl _
termination_by structural os

theorem Predicate.persists_render {cx : Context} {newer : Option Version} (h : cx.Upgrades newer) (p : Predicate) :
    Persists cx.dialect.name (p.render cx) (p.render (cx.on newer)) := by
  cases p
  case always => exact .refl _
  case never => exact .refl _
  case comparison op a b =>
    exact Predicate.persists_comparison (fun hint => a.persists_render h hint) (fun hint => b.persists_render h hint) op
  case inList column list =>
    cases list
    case nil => exact .refl _
    case cons a r =>
      rw [Predicate.render, Predicate.render]
      · exact (column.persists_render h none).bind fun _ =>
          (Column.persists_renderAll h _ (a :: r)).bind fun _ => .refl _
      all_goals simp
  case between column low high =>
    rw [Predicate.render, Predicate.render]
    exact (column.persists_render h none).bind fun _ => (low.persists_render h _).bind fun _ =>
      (high.persists_render h _).bind fun _ => .refl _
  case like a b caseSensitive =>
    exact Predicate.persists_like h (fun hint => a.persists_render h hint) (fun hint => b.persists_render h hint)
      caseSensitive
  case startsWith a b =>
    rw [Predicate.render, Predicate.render]
    exact (a.persists_render h none).bind fun _ => (b.persists_render h none).bind fun _ => .refl _
  case endsWith a b =>
    rw [Predicate.render, Predicate.render]
    exact (a.persists_render h none).bind fun _ => (b.persists_render h none).bind fun _ => .refl _
  case existsRow s =>
    rw [Predicate.render, Predicate.render]
    exact (s.persists_render h).bind fun _ => .refl _
  case and p q =>
    rw [Predicate.render, Predicate.render]
    exact (p.persists_render h).bind fun _ => (q.persists_render h).bind fun _ => .refl _
  case or p q =>
    rw [Predicate.render, Predicate.render]
    exact (p.persists_render h).bind fun _ => (q.persists_render h).bind fun _ => .refl _
  case not p =>
    rw [Predicate.render, Predicate.render]
    exact (p.persists_render h).bind fun _ => .refl _
termination_by structural p

theorem Table.persists_render {cx : Context} {newer : Option Version} (h : cx.Upgrades newer) (t : Table) :
    Persists cx.dialect.name (t.render cx) (t.render (cx.on newer)) := by
  cases t
  case physical id aliasName => exact .refl _
  case join kind left right condition =>
    rw [Table.render, Table.render]
    exact (left.persists_render h).bind fun _ => (right.persists_render h).bind fun _ =>
      (condition.persists_render h).bind fun _ => .refl _
  case subSelect s aliasName =>
    rw [Table.render, Table.render]
    exact (s.persists_render h).bind fun _ => .refl _
termination_by structural t

theorem Select.persists_render {cx : Context} {newer : Option Version} (h : cx.Upgrades newer) (s : Select) :
    Persists cx.dialect.name (s.render cx) (s.render (cx.on newer)) := by
  cases s
  case mk table columns distinct predicate groups having items offset limit forUpdate =>
    rw [Select.render_eq, Select.render_eq]
    split
    case isTrue => exact .refl _
    case isFalse =>
      refine (Persists.refl _).bind fun top => ?_
      refine (Column.persists_renderAll h none columns).bind fun projected => ?_
      refine (table.persists_render h).bind fun source => ?_
      refine (Predicate.persists_renderAfter _ (predicate.persists_render h)).bind fun filter => ?_
      refine (Column.persists_renderGrouping h groups).bind fun grouping => ?_
      refine (Predicate.persists_renderHaving h having).bind fun groupFilter => ?_
      refine (OrderItem.persists_renderOrder h items).bind fun order => ?_
      refine (Persists.refl _).bind fun window => ?_
      exact (Select.persists_renderForUpdate h forUpdate).bind fun _ => .refl _
termination_by structural s

theorem Predicate.persists_renderHaving {cx : Context} {newer : Option Version} (h : cx.Upgrades newer)
    (p : Option Predicate) :
    Persists cx.dialect.name (Predicate.renderHaving cx p) (Predicate.renderHaving (cx.on newer) p) := by
  cases p
  case none => exact .refl _
  case some p =>
    rw [Predicate.renderHaving, Predicate.renderHaving]
    split
    case isTrue => exact .refl _
    case isFalse => exact (p.persists_render h).bind fun _ => .refl _
termination_by structural p

theorem Column.persists_renderGrouping {cx : Context} {newer : Option Version} (h : cx.Upgrades newer)
    (cs : Option (List Column)) :
    Persists cx.dialect.name (Column.renderGrouping cx cs) (Column.renderGrouping (cx.on newer) cs) := by
  cases cs
  case none => exact .refl _
  case some cs =>
    rw [Column.renderGrouping, Column.renderGrouping]
    exact (Column.persists_renderAll h none cs).bind fun _ => .refl _
termination_by structural cs

theorem OrderItem.persists_renderOrder {cx : Context} {newer : Option Version} (h : cx.Upgrades newer)
    (os : Option (List OrderItem)) :
    Persists cx.dialect.name (OrderItem.renderOrder cx os) (OrderItem.renderOrder (cx.on newer) os) := by
  cases os
  case none => exact .refl _
  case some os =>
    rw [OrderItem.renderOrder, OrderItem.renderOrder]
    exact (OrderItem.persists_renderAll h os).bind fun _ => .refl _
termination_by structural os

end

end PolySql
