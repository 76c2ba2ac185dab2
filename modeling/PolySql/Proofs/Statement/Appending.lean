import PolySql.Proofs.Statement.Building

namespace PolySql

open Fragment

-- Words with placeholders in between, which are numbered on from `bound`.
def Dialect.spaced (d : Dialect) (bound : Nat) (first : String) : List String → String
  | [] => first
  | w :: r => first ++ d.placeholder.text (bound + 1) ++ d.spaced (bound + 1) w r

theorem Dialect.spaced_append (d : Dialect) (bound : Nat) (s first : String) (rest : List String) :
    d.spaced bound (s ++ first) rest = s ++ d.spaced bound first rest := by
  cases rest
  case nil => rfl
  case cons w r => simp only [spaced, String.append_assoc]

-- The number of parameters before a fragment does nothing but count its placeholders on.
theorem Fragment.exists_spaced (f : Fragment) (d : Dialect) :
    ∃ first rest, rest.length = f.params.length ∧ ∀ bound, f.text d bound = d.spaced bound first rest := by
  induction f
  case nil => exact ⟨"", [], rfl, fun _ => rfl⟩
  case cons p f ih =>
    obtain ⟨first, rest, hlength, htext⟩ := ih
    have hword (s : String) (hs : ∀ bound, p.text d bound = s) (hp : p.param? = none) :
        ∃ first rest, rest.length = (params (p :: f)).length ∧
          ∀ bound, text d bound (p :: f) = d.spaced bound first rest := by
      refine ⟨s ++ first, rest, by simp [params_cons, hp, hlength], fun bound => ?_⟩
      rw [text_cons, hs, hp, Dialect.spaced_append, ← htext]
      rfl
    cases p
    case words s => exact hword s (fun _ => rfl) rfl
    case name s => exact hword (d.identifier s) (fun _ => rfl) rfl
    case literal v => exact hword (d.literal v) (fun _ => rfl) rfl
    case param v =>
      refine ⟨"", first :: rest, by simp [params_cons, Piece.param?, hlength], fun bound => ?_⟩
      rw [text_cons, Dialect.spaced, ← htext, String.empty_append]
      rfl

-- Both computations fail with the same error, or give texts with the same parameters.
abbrev SameParams (r r' : Result Fragment) : Prop :=
  Result.Alike (fun f f' => f'.params = f.params) r r'

abbrev SameParamsAll (r r' : Result (List Fragment)) : Prop :=
  Result.Alike (fun fs fs' => fs'.flatMap params = fs.flatMap params) r r'

theorem SameParams.refl (r : Result Fragment) : SameParams r r := by
  cases r
  case ok f => exact .ok rfl
  case error e => exact .error e

theorem Sheds.sameParams {n : Nat} {r r' : Result Fragment} (h : Sheds n r r') : SameParams r r' := by
  cases h
  case ok h => exact .ok h.params_eq
  case error e => exact .error e

theorem SameParams.map_params_eq {r r' : Result Fragment} (h : SameParams r r') : r'.map params = r.map params := by
  cases h
  case ok h => exact congrArg Except.ok h
  case error e => rfl

theorem SameParamsAll.mapM {α : Type} {f f' : α → Result Fragment} (h : ∀ a, SameParams (f a) (f' a)) (as : List α) :
    SameParamsAll (as.mapM f) (as.mapM f') := by
  induction as
  case nil => exact .ok rfl
  case cons a r ih =>
    rw [List.mapM_cons, List.mapM_cons]
    exact (h a).bind fun f f' hf => ih.bind fun fs fs' hfs => .ok (by simp [hf, hfs])

section

variable {cx : Context} (h : cx.qualified = true)

include h

namespace Insert

theorem sameParams_renderCells (columns : List ColumnId) (row : List Column) :
    SameParamsAll (renderCells cx columns row) (renderCells cx.unqualified columns row) := by
  rw [renderCells_eq, renderCells_eq]
  exact .mapM (fun x => (x.2.sheds_render h _).sameParams) _

theorem sameParams_renderValues (columns : List ColumnId) (rows : List (List Column)) :
    SameParams (renderValues cx columns rows) (renderValues cx.unqualified columns rows) := by
  have hrow (row : List Column) : SameParams (renderRow cx columns row) (renderRow cx.unqualified columns row) :=
    (sameParams_renderCells h columns row).bind fun fs fs' hfs => .ok (by simp [hfs])
  have htuples (head : Fragment) :
      SameParams (rows.mapM (renderRow cx columns) >>= fun fs => .ok (head ++ parenthesised (joined "), (" fs)))
        (rows.mapM (renderRow cx.unqualified columns) >>= fun fs => .ok (head ++ parenthesised (joined "), (" fs))) :=
    (SameParamsAll.mapM hrow rows).bind fun fs fs' hfs => .ok (by simp [hfs])
  rw [renderValues, renderValues]
  split
  case isTrue => exact .refl _
  case isFalse =>
    split
    case isTrue => exact (Result.Alike.self (cx.require _ _)).bind fun _ _ _ => htuples _
    case isFalse => exact htuples _

theorem sameParams_render (i : Insert) : SameParams (i.render cx) (i.render cx.unqualified) := by
  refine (sameParams_renderValues h i.columns i.rows).bind fun f f' hf => ?_
  refine (Result.Alike.self (renderConflict cx i.table i.onConflict)).bind fun g _ hg => hg ▸ ?_
  refine (Result.Alike.self (renderReturning cx i.returning)).bind fun e _ he => he ▸ .ok ?_
  simp [hf]

end Insert

theorem Update.sameParams_render (u : Update) : SameParams (u.render cx) (u.render cx.unqualified) := by
  have hvalues : SameParamsAll (renderValues cx u.values) (renderValues cx.unqualified u.values) := by
    rw [renderValues_eq, renderValues_eq]
    exact .mapM (fun x => (x.2.sheds_render h _).sameParams.bind fun f f' hf => .ok (by simp [hf])) _
  have hfilter := (Predicate.sheds_renderAfter " WHERE " (u.predicate.sheds_render h)).sameParams
  rw [render, render]
  split
  case isTrue => exact .error _
  case isFalse =>
    refine (Result.Alike.self _).bind fun _ _ _ => ?_
    refine (SameParams.refl _).bind fun top top' htop => ?_
    refine hvalues.bind fun values values' hvalues => hfilter.bind fun filter filter' hfilter => ?_
    refine (SameParams.refl _).bind fun limit limit' hlimit => ?_
    refine (SameParams.refl _).bind fun returned returned' hreturned => .ok ?_
    simp [htop, hvalues, hfilter, hlimit, hreturned]

theorem Delete.sameParams_render (s : Delete) : SameParams (s.render cx) (s.render cx.unqualified) := by
  have hfilter := (Predicate.sheds_renderAfter " WHERE " (s.predicate.sheds_render h)).sameParams
  refine (SameParams.refl _).bind fun top top' htop => hfilter.bind fun filter filter' hfilter => ?_
  refine (SameParams.refl _).bind fun limit limit' hlimit => ?_
  refine (SameParams.refl _).bind fun returned returned' hreturned => .ok ?_
  simp [htop, hfilter, hlimit, hreturned]

end

namespace Build

-- What becomes of a builder by the addition of words with placeholders in between, or by a failure on the way.
inductive Appended (b : Builder) (first : String) (rest : List String) :
    Result (List Value) → Result Unit × Builder → Prop
  | ok (h : rest.length = ps.length) : Appended b first rest (.ok ps)
    (.ok (), ⟨b.context, b.sql ++ b.context.dialect.spaced b.params.length first rest, b.params ++ ps⟩)
  | error (e : DatabaseError) (h : b'.context = b.context) : Appended b first rest (.error e) (.error e, b')

namespace Appended

variable {b : Builder} {first : String} {rest : List String} {r : Result (List Value)} {out : Result Unit × Builder}

theorem of_ok (h : Appended b first rest r out) (hout : out.1 = .ok ()) : ∃ ps, r = .ok ps ∧ rest.length = ps.length ∧
    out.2 = ⟨b.context, b.sql ++ b.context.dialect.spaced b.params.length first rest, b.params ++ ps⟩ := by
  cases h
  case ok ps h => exact ⟨ps, rfl, h, rfl⟩
  case error => nomatch hout

theorem eq_of_ok {ps : List Value} (h : Appended b first rest (.ok ps) out) :
    out = (.ok (), ⟨b.context, b.sql ++ b.context.dialect.spaced b.params.length first rest, b.params ++ ps⟩) := by
  cases h
  rfl

end Appended

theorem Writes.added {cx : Context} {x : Build Unit} {r : Result Fragment} (h : Writes cx [] x r) (s : String)
    (params : List Value) : Added ⟨cx, s, params⟩ r (exec x ⟨cx, s, params⟩) := by
  have hadded := h ⟨cx, s, params⟩ rfl
  rwa [Builder.push_nil] at hadded

theorem Writes.exists_appended {cx : Context} {x : Build Unit} {r : Result Fragment} (h : Writes cx [] x r) :
    ∃ first rest, ∀ s params, Added ⟨cx, s, params⟩ r (exec x ⟨cx, s, params⟩) ∧
      Appended ⟨cx, s, params⟩ first rest (r.map Fragment.params) (exec x ⟨cx, s, params⟩) := by
  cases r
  case ok f =>
    obtain ⟨first, rest, hlength, htext⟩ := f.exists_spaced cx.dialect
    refine ⟨first, rest, fun s params => ?_⟩
    have hadded := h.added s params
    generalize exec x ⟨cx, s, params⟩ = out at hadded ⊢
    refine ⟨hadded, ?_⟩
    cases hadded
    rw [Builder.push, htext]
    exact .ok hlength
  case error e =>
    refine ⟨"", [], fun s params => ?_⟩
    have hadded := h.added s params
    generalize exec x ⟨cx, s, params⟩ = out at hadded ⊢
    refine ⟨hadded, ?_⟩
    cases hadded
    exact .error e rfl

end Build

-- What is built into a statement or is one. A join is a table.
inductive Expression
  | column (hint : Option ColumnType) (c : Column)
  | function (f : Function)
  | predicate (p : Predicate)
  | table (t : Table)
  | select (s : Select)
  | insert (i : Insert)
  | update (u : Update)
  | delete (s : Delete)
  | schema (op : SchemaOp)

namespace Expression

def render (cx : Context) : Expression → Result Fragment
  | column hint c => c.render cx hint
  | function f => f.render cx
  | predicate p => p.render cx
  | table t => t.render cx
  | select s => s.render cx
  | insert i => i.render cx
  | update u => u.render cx
  | delete s => s.render cx
  | schema op => op.render cx

def build : Expression → Build Unit
  | column hint c => c.build hint
  | function f => f.build
  | predicate p => p.build
  | table t => t.build
  | select s => s.build
  | insert i => i.build
  | update u => u.build
  | delete s => s.build
  | schema op => op.build

theorem writes_build (e : Expression) (cx : Context) : Build.Writes cx [] e.build (e.render cx) := by
  cases e
  case column hint c => exact c.writes_build cx hint
  case function f => exact f.writes_build cx
  case predicate p => exact p.writes_build cx
  case table t => exact t.writes_build cx
  case select s => exact s.writes_build cx
  case insert i => exact i.writes_build
  case update u => exact u.writes_build
  case delete s => exact s.writes_build
  case schema op => exact op.writes_build

theorem sameParams_render (e : Expression) {cx : Context} (h : cx.qualified = true) :
    SameParams (e.render cx) (e.render cx.unqualified) := by
  cases e
  case column hint c => exact (c.sheds_render h hint).sameParams
  case function f => exact (f.sheds_render h).sameParams
  case predicate p => exact (p.sheds_render h).sameParams
  case table t => exact (t.sheds_render h).sameParams
  case select s => exact (s.sheds_render h).sameParams
  case insert i => exact i.sameParams_render h
  case update u => exact u.sameParams_render h
  case delete s => exact s.sameParams_render h
  case schema op => exact .refl (op.render cx)

-- The result and the parameters are the same wherever the building starts and whether or not columns are qualified.
-- Neither does the text depend on what it stands after, but for the number of the first placeholder.
theorem build_appends (e : Expression) (c : Catalog) (d : Dialect) (version : Option Version) :
    ∃ r : Result (List Value), ∀ q : Bool, ∃ (first : String) (rest : List String),
      ∀ (s : String) (params : List Value),
      let b : Builder := ⟨⟨c, d, version, q⟩, s, params⟩
      Build.Added b (e.render b.context) (exec e.build b) ∧ Build.Appended b first rest r (exec e.build b) := by
  let cx : Context := ⟨c, d, version, true⟩
  have hsame (q : Bool) :
      (e.render { cx with qualified := q }).map Fragment.params = (e.render cx).map Fragment.params := by
    cases q
    case true => rfl
    case false => exact (e.sameParams_render rfl).map_params_eq
  refine ⟨(e.render cx).map Fragment.params, fun q => ?_⟩
  rw [← hsame q]
  exact (e.writes_build { cx with qualified := q }).exists_appended

theorem build_appends_of_delete :
    let people : TableDef := ⟨"people", [⟨"id", .int .bits32, false, true, false, none⟩], [0], [], []⟩
    let id : Column := .physical ⟨0, 0⟩ none
    let e : Expression := .delete ⟨0, .comparison .lt id (.param (.int 7)), [id], none⟩
    let cx : Context := ⟨⟨[people]⟩, .postgres, none, true⟩
    (exec e.build ⟨cx, "EXPLAIN ", [.int 3]⟩).2.sql = "EXPLAIN DELETE FROM people WHERE people.id < $2 RETURNING id" ∧
      ∃ first last, ∀ s params, exec e.build ⟨cx, s, params⟩ = (.ok (),
        ⟨cx, s ++ (first ++ Dialect.postgres.placeholder.text (params.length + 1) ++ last), params ++ [.int 7]⟩) := by
  intro people id e cx
  refine ⟨by decide +kernel, ?_⟩
  obtain ⟨r, h⟩ := build_appends e cx.catalog cx.dialect cx.version
  obtain ⟨first, rest, h⟩ := h true
  obtain ⟨ps, hr, hlength, hout⟩ := (h "" []).2.of_ok rfl
  have hps : [] ++ ps = [.int 7] := congrArg Builder.params hout.symm
  obtain rfl : ps = [.int 7] := hps
  obtain ⟨last, rfl⟩ := List.length_eq_one_iff.mp hlength
  subst hr
  exact ⟨first, last, fun s params => (h s params).2.eq_of_ok⟩

end Expression

end PolySql
