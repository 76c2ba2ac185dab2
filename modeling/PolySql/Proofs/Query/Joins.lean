import PolySql.Proofs.Sql.Sources

namespace PolySql

open Fragment

-- The tables of a query as they are to be read. An alias that is the name of its table is left out.
def Table.source (cx : Context) : Table → Result SourceTree
  | .physical id aliasName =>
    let name := cx.catalog.tableName id
    .ok (.table (cx.dialect.storedName name)
      (aliasName.bind fun a => if a = name then none else some (cx.dialect.storedName a)))
  | .join kind left right condition => do
    return .join kind (← left.source cx) (← right.source cx) (← condition.tree cx)
  | .subSelect s aliasName => do
    return .query ((parenthesised (← s.render cx)).lexemes cx.dialect) (cx.dialect.storedName aliasName)

-- Does a reserved word, which begins no join, begin the words?
def Dialect.endsTables (d : Dialect) (w : String) : Bool :=
  ((d.lexis.words w).map Lexeme.token).head?.any fun l =>
    l.role = .name && (l.name? d).isNone && !(["AS", "JOIN", "INNER", "LEFT"].any l.isWord)

namespace Fragment

open Lexeme

-- Tables before the fragment end there, whatever follows it.
def Parts (d : Dialect) (f : Fragment) : Prop :=
  ∀ r, SourceTree.Finishes d (f.lexemes d ++ r)

-- A part of a statement that is left out or begins so that tables before it end.
def EndsTables (d : Dialect) (f : Fragment) : Prop :=
  f.lexemes d = [] ∨ Parts d f

variable {d : Dialect} {f g : Fragment} {w : String}

theorem Parts.append (hf : Parts d f) (g : Fragment) : Parts d (f ++ g) := by
  intro r
  rw [lexemes_append, List.append_assoc]
  exact hf _

theorem Parts.words (h : d.endsTables w = true) : Parts d (words w) := by
  intro r
  rw [lexemes_words]
  cases hw : (d.lexis.words w).map Lexeme.token
  case nil => simp [Dialect.endsTables, hw] at h
  case cons l ls =>
    simp only [Dialect.endsTables, hw, List.head?_cons, Option.any_some, Bool.and_eq_true, decide_eq_true_eq,
      Option.isNone_iff_eq_none] at h
    obtain ⟨⟨hl, hn⟩, hs⟩ := h
    rw [Bool.not_eq_true', List.any_cons, Bool.or_eq_false_iff] at hs
    exact .of_word (.reserved hl hn hs.1 _) hs.2

namespace EndsTables

theorem nil (d : Dialect) : EndsTables d [] :=
  .inl rfl

theorem append (hf : EndsTables d f) (hg : EndsTables d g) : EndsTables d (f ++ g) := by
  rcases hf with hf | hf
  case inl => simpa [EndsTables, Parts, hf] using hg
  case inr => exact .inr (hf.append g)

theorem finishes (h : EndsTables d f) : SourceTree.Finishes d (f.lexemes d) := by
  rcases h with h | h
  case inl => simpa [h] using SourceTree.Finishes.nil d
  case inr => simpa using h []

end EndsTables

section

variable {d : Dialect} (hd : d ∈ Dialect.builtins)

include hd

theorem exists_lexeme_stored (s : String) : ∃ l, (name s).lexemes d = [l] ∧ l.name? d = some (d.storedName s) ∧
    l.role ≠ .opening ∧ l.isWord "AS" = false := by
  obtain ⟨t, ht, hs, -, hchars⟩ := Dialect.spells_identifier hd s
  refine ⟨.token t, by simp [lexemes, name, Piece.lexemes_of_spells (p := .name s) hs rfl], ?_, ?_, ?_⟩
  · have := Dialect.readName?_toList_identifier hd (t := []) (fun _ => Dialect.isNameChar_of_isWordChar) s (by simp)
    rw [List.append_nil] at this
    simp [name?, hchars, this]
  · intro h
    have := ht.isNaming_role
    rw [show t.role = .opening from h] at this
    cases this
  · rw [Bool.eq_false_iff]
    intro h
    simp only [isWord, Bool.and_eq_true, beq_iff_eq] at h
    rcases ht with hk | ⟨-, hw⟩
    case inl => cases hk.symm.trans h.1
    case inr => exact hw (h.2 ▸ by decide)

-- The alias of a table is read after the vendor's word for it, or after none.
theorem aliased?_separator (s : String) {r : List Lexeme} (h : r.head?.any isCount = false) :
    aliased? d ((words d.aliasSeparator ++ name s).lexemes d ++ r) = some (d.storedName s, r) := by
  have hw : ∀ d ∈ Dialect.builtins, d.lexis.words d.aliasSeparator = [] ∨
      d.lexis.words d.aliasSeparator = [⟨.word, "AS".toList⟩] := by
    decide
  obtain ⟨l, hl, hn, -, has⟩ := exists_lexeme_stored hd s
  rw [lexemes_append, hl, lexemes_words]
  rcases hw d hd with hw | hw
  case inl => simp [hw, aliased?, has, h, hn]
  case inr =>
    have : isWord "AS" (.token ⟨.word, ['A', 'S']⟩) = true := by decide
    simp [hw, aliased?, this, h, hn]

theorem forms_name (s : String) : SourceTree.Forms d ((name s).lexemes d) (.table (d.storedName s) none) := by
  obtain ⟨l, hl, hn, hr, -⟩ := exists_lexeme_stored hd s
  rw [hl]
  exact .table hr hn

end

end Fragment

section

variable {cx : Context} (hcx : cx.dialect ∈ Dialect.builtins)

include hcx

theorem SourceTree.forms_aliased (name a : String) : SourceTree.Forms cx.dialect
    ((Table.aliased cx (Fragment.name name) a).lexemes cx.dialect)
    (.table (cx.dialect.storedName name) (some (cx.dialect.storedName a))) := by
  obtain ⟨l, hl, hn, hr, -⟩ := exists_lexeme_stored hcx name
  rw [Table.aliased, lexemes_append, hl]
  exact .aliased (fun r h => aliased?_separator hcx a h) hr hn

theorem SourceTree.forms_query {s : Select} (h : s.render cx = .ok f) (a : String) :
    SourceTree.Forms cx.dialect ((Table.aliased cx (parenthesised f) a).lexemes cx.dialect)
      (.query ((parenthesised f).lexemes cx.dialect) (cx.dialect.storedName a)) := by
  have hselect : (f.lexemes cx.dialect).head?.any (·.role = .select) = true := by
    obtain ⟨g, rfl⟩ := s.prefix_render cx f h
    obtain ⟨l, hl, hm⟩ := exists_lexeme hcx (w := "SELECT ") (m := .select) (by decide)
    rw [lexemes_append, hl]
    simp [hm]
  rw [Table.aliased, lexemes_append, lexemes_parenthesised hcx]
  exact .query (fun r h => aliased?_separator hcx a h) (s.whole_render cx hcx f h).nesting hselect

theorem JoinKind.lexemes_text (kind : JoinKind) : ∃ ls, (words kind.text).lexemes cx.dialect = ls ∧ ls ≠ [] ∧
    (∀ r, Lexeme.joinKind? (ls ++ r) = some (kind, r)) ∧ ∀ r, SourceTree.Ends cx.dialect (ls ++ r) := by
  have hname : ∀ d ∈ Dialect.builtins, ∀ w ∈ ["INNER", "LEFT"], (Lexeme.token ⟨.word, w.toList⟩).name? d = none := by
    decide
  have hends (w : String) (hw : w ∈ ["INNER", "LEFT"]) (r : List Lexeme) :
      SourceTree.Ends cx.dialect (.token ⟨.word, w.toList⟩ :: r) := by
    refine .reserved ?_ (hname _ hcx w hw) ?_ r
    all_goals
      revert w
      decide
  cases kind
  case inner =>
    have hw : ∀ l ∈ Lexis.vendors, l.words " INNER JOIN " = [⟨.word, "INNER".toList⟩, ⟨.word, "JOIN".toList⟩] := by
      decide
    refine ⟨_, rfl, ?_⟩
    rw [lexemes_words, text, hw _ (Dialect.lexis_mem hcx)]
    exact ⟨nofun, fun r => rfl, fun r => hends "INNER" (by simp) _⟩
  case left =>
    have hw : ∀ l ∈ Lexis.vendors, l.words " LEFT JOIN " = [⟨.word, "LEFT".toList⟩, ⟨.word, "JOIN".toList⟩] := by
      decide
    refine ⟨_, rfl, ?_⟩
    rw [lexemes_words, text, hw _ (Dialect.lexis_mem hcx)]
    exact ⟨nofun, fun r => rfl, fun r => hends "LEFT" (by simp) _⟩

theorem SourceTree.Forms.between_words {kind : JoinKind} {f g c : Fragment}
    (hf : SourceTree.Forms cx.dialect (f.lexemes cx.dialect) e)
    (hg : SourceTree.Forms cx.dialect (g.lexemes cx.dialect) e') (hc : Expr.Forms k (c.lexemes cx.dialect) p) (hk : 0 < k) :
    SourceTree.Forms cx.dialect ((f ++ words kind.text ++ g ++ words " ON " ++ c).lexemes cx.dialect)
      (.join kind e e' p) := by
  have hon : ∀ l ∈ Lexis.vendors, l.words " ON " = [⟨.word, "ON".toList⟩] := by decide
  have hon : (words " ON ").lexemes cx.dialect = [.token ⟨.word, "ON".toList⟩] := by
    rw [lexemes_words, hon _ (Dialect.lexis_mem hcx)]
    rfl
  have hends : ∀ d ∈ Dialect.builtins, d.endsTables " ON " = true := by decide
  obtain ⟨ls, hls, hne, hjoin, hlsEnds⟩ := kind.lexemes_text hcx
  have hfinishes (r : List Lexeme) : Finishes cx.dialect (.token ⟨.word, "ON".toList⟩ :: r) := by
    simpa [hon] using Parts.words (hends _ hcx) r
  simp only [lexemes_append, hls, hon]
  simpa using hf.join hlsEnds hjoin hne hg hfinishes (by decide) hc hk

end

section

variable {d : Dialect} (hd : d ∈ Dialect.builtins)

include hd

namespace Fragment.EndsTables

theorem blank (h : EndsTables d f) : EndsTables d (Fragment.words " " ++ f) := by
  have hw : ∀ l ∈ Lexis.vendors, l.words " " = [] := by decide
  simpa [EndsTables, Parts, lexemes_words, hw _ (Dialect.lexis_mem hd)] using h

theorem after (hw : ∀ d ∈ Dialect.builtins, d.endsTables w = true) (f : Fragment) :
    EndsTables d (Fragment.words w ++ f) :=
  .inr (.append (.words (hw d hd)) f)

end Fragment.EndsTables

theorem Predicate.endsTables_renderAfter (cx : Context) (p : Predicate) :
    Yields (EndsTables d) (p.renderAfter cx " WHERE ") := by
  rw [renderAfter]
  split
  case isTrue => exact .ok (.nil d)
  case isFalse => exact (Yields.trivial _).bind fun f _ => .ok (.after hd (by decide) f)

theorem Predicate.endsTables_renderHaving (cx : Context) (p : Option Predicate) :
    Yields (EndsTables d) (renderHaving cx p) := by
  cases p <;> rw [renderHaving]
  case none => exact .ok (.nil d)
  case some p =>
    split
    case isTrue => exact .ok (.nil d)
    case isFalse => exact (Yields.trivial _).bind fun f _ => .ok (.after hd (by decide) f)

theorem Column.endsTables_renderGrouping (cx : Context) (columns : Option (List Column)) :
    Yields (EndsTables d) (renderGrouping cx columns) := by
  cases columns <;> rw [renderGrouping]
  case none => exact .ok (.nil d)
  case some => exact (Yields.trivial _).bind fun fs _ => .ok (.blank hd (.after hd (by decide) _))

theorem OrderItem.endsTables_renderOrder (cx : Context) (items : Option (List OrderItem)) :
    Yields (EndsTables d) (renderOrder cx items) := by
  cases items <;> rw [renderOrder]
  case none => exact .ok (.nil d)
  case some => exact (Yields.trivial _).bind fun fs _ => .ok (.blank hd (.after hd (by decide) _))

namespace Select

-- The word of an offset need not be reserved, since a number is next.

theorem parts_offsetClause (n : Int64) : Yields (Parts d) (offsetClause n) := by
  have hw : ∀ l ∈ Lexis.vendors, l.words "OFFSET " = [⟨.word, "OFFSET".toList⟩] := by decide
  refine (Yields.self _).bind fun f hf => .ok fun r => ?_
  obtain ⟨-, rfl⟩ := Context.rowCount_eq_ok.mp hf
  rw [lexemes_append, lexemes_words, hw _ (Dialect.lexis_mem hd)]
  exact .of_word (.counted (by decide) (by decide) rfl _) (by decide)

theorem endsTables_renderOffsetRows (requiresOrder : Bool) (offset : Option Int64) :
    Yields (EndsTables d) (renderOffsetRows requiresOrder offset) := by
  have hw : ∀ l ∈ Lexis.vendors, l.words " OFFSET 0 ROWS" =
      [⟨.word, "OFFSET".toList⟩, ⟨.number, ['0']⟩, ⟨.word, "ROWS".toList⟩] := by
    decide
  cases offset
  case some n =>
    refine (parts_offsetClause hd n).bind fun f hf => .ok ?_
    rw [List.append_assoc]
    exact .blank hd (.inr (hf.append _))
  case none =>
    cases requiresOrder
    case false => exact .ok (.nil d)
    case true =>
      refine .ok (.inr fun r => ?_)
      rw [if_pos rfl, lexemes_words, hw _ (Dialect.lexis_mem hd)]
      exact .of_word (.counted (by decide) (by decide) (by decide) _) (by decide)

theorem endsTables_renderFetch (limit : Option Int64) : Yields (EndsTables d) (renderFetch limit) := by
  cases limit
  case none => exact .ok (.nil d)
  case some n =>
    refine (Yields.trivial _).bind fun f _ => .ok ?_
    rw [List.append_assoc]
    exact .after hd (by decide) _

theorem endsTables_renderOffsetFetch (requiresOrder ordered : Bool) (limit offset : Option Int64) :
    Yields (EndsTables d) (renderOffsetFetch requiresOrder ordered limit offset) := by
  have horder : EndsTables d (if requiresOrder && !ordered then words " ORDER BY (SELECT NULL)" else []) := by
    split
    case isTrue => simpa using EndsTables.after hd (w := " ORDER BY (SELECT NULL)") (by decide) []
    case isFalse => exact .nil d
  unfold renderOffsetFetch
  split
  case isTrue => exact .ok (.nil d)
  case isFalse =>
    refine (endsTables_renderOffsetRows hd requiresOrder offset).bind fun rows hrows => ?_
    exact (endsTables_renderFetch hd limit).bind fun f hf => .ok ((horder.append hrows).append hf)

omit hd in
theorem parts_limitClause (hlimit : d.endsTables "LIMIT " = true) (n : Int64) : Yields (Parts d) (limitClause n) :=
  (Yields.trivial _).bind fun _ _ => .ok (.append (.words hlimit) _)

theorem endsTables_renderLimitOffset (hlimit : ∀ w ∈ ["LIMIT ", " LIMIT "], d.endsTables w = true)
    (unbounded : Option String) (limit offset : Option Int64) :
    Yields (EndsTables d) (renderLimitOffset unbounded limit offset) := by
  have hhead : Yields (EndsTables d) (renderLimit limit) := by
    cases limit
    case none => exact .ok (.nil d)
    case some n => exact (parts_limitClause (hlimit _ (by simp)) n).bind fun f hf => .ok (.blank hd (.inr hf))
  refine hhead.bind fun head hhead => ?_
  cases offset
  case none => exact .ok hhead
  case some n =>
    refine (parts_offsetClause hd n).bind fun f hf => .ok ?_
    rw [List.append_assoc]
    refine (hhead.append ?_).append (.blank hd (.inr hf))
    split
    case h_1 => exact .inr (.append (.words (hlimit _ (by simp))) _)
    case h_2 => exact .nil d

theorem endsTables_renderWindow (ordered : Bool) (limit offset : Option Int64) :
    Yields (EndsTables d) (renderWindow d.limitStyle ordered limit offset) := by
  have hlimit : ∀ d ∈ Dialect.builtins, (d.limitStyle matches .limitOffset _) = true →
      ∀ w ∈ ["LIMIT ", " LIMIT "], d.endsTables w = true := by
    decide
  cases hs : d.limitStyle
  case limitOffset unbounded =>
    exact endsTables_renderLimitOffset hd (hlimit d hd (by rw [hs])) unbounded limit offset
  case offsetFetch =>
    rw [renderWindow]
    split
    case isTrue => exact .ok (.nil d)
    case isFalse => exact endsTables_renderOffsetFetch hd _ _ _ _

theorem endsTables_renderForUpdate (cx : Context) (forUpdate : Bool) :
    Yields (EndsTables d) (renderForUpdate cx forUpdate) := by
  unfold renderForUpdate
  split
  case isTrue =>
    have : EndsTables d (words " FOR UPDATE" ++ []) := .after hd (by decide) []
    exact (Yields.trivial _).bind fun _ _ => .ok this
  case isFalse => exact .ok (.nil d)

end Select

end

section

variable {cx : Context} (hcx : cx.dialect ∈ Dialect.builtins)

include hcx

-- The tables of a query stand after their word, and end where they should.
theorem Select.exists_source (s : Select) :
    Yields (fun f => ∃ head source rest, f = head ++ (words " FROM " ++ (source ++ rest)) ∧
      s.table.render cx = .ok source ∧ EndsTables cx.dialect rest) (s.render cx) := by
  rw [Select.render_eq]
  split
  case isTrue => exact .error _
  case isFalse =>
    refine (Yields.trivial _).bind fun top _ => (Yields.trivial _).bind fun projected _ => ?_
    refine (Yields.self _).bind fun source hsource => ?_
    refine (Predicate.endsTables_renderAfter hcx cx _).bind fun filter hfilter => ?_
    refine (Column.endsTables_renderGrouping hcx cx _).bind fun grouping hgrouping => ?_
    refine (Predicate.endsTables_renderHaving hcx cx _).bind fun having hhaving => ?_
    refine (OrderItem.endsTables_renderOrder hcx cx _).bind fun order horder => ?_
    refine (endsTables_renderWindow hcx _ _ _).bind fun window hwindow => ?_
    refine (endsTables_renderForUpdate hcx cx _).bind fun lock hlock => .ok ?_
    refine ⟨words "SELECT " ++ (if s.distinct then words "DISTINCT " else []) ++ top ++ joined ", " projected, source,
      filter ++ grouping ++ having ++ order ++ window ++ lock, ?_, hsource,
      ((((hfilter.append hgrouping).append hhaving).append horder).append hwindow).append hlock⟩
    simp only [List.append_assoc]

end

theorem Table.forms_render (cx : Context) (hcx : cx.dialect ∈ Dialect.builtins) (t : Table) :
    Follows (fun f e => SourceTree.Forms cx.dialect (f.lexemes cx.dialect) e) (t.render cx) (t.source cx) := by
  cases t
  case physical id aliasName =>
    rw [Table.source]
    cases aliasName <;> rw [Table.render]
    case none => exact .ok (forms_name hcx _)
    case some a =>
      by_cases ha : a = cx.catalog.tableName id
      case pos =>
        simp only [ha, if_true, Option.bind_some]
        exact .ok (forms_name hcx _)
      case neg =>
        simp only [ha, if_false, Option.bind_some]
        exact .ok (SourceTree.forms_aliased hcx _ a)
  case join kind left right condition =>
    rw [Table.render, Table.source]
    refine (left.forms_render cx hcx).bind fun f e hf => (right.forms_render cx hcx).bind fun g e' hg => ?_
    exact (condition.forms_render cx hcx).bind fun c p hc => .ok (hf.between_words hcx hg hc (by omega))
  case subSelect s a =>
    rw [Table.render, Table.source]
    refine (Follows.self (Yields.self _)).bind fun f _ hf => .ok ?_
    obtain ⟨rfl, hf⟩ := hf
    exact SourceTree.forms_query hcx hf a
termination_by structural t

-- The sub-selects of a table.
inductive Table.Queries (s : Select) : Table → Prop
  | subSelect : Queries s (.subSelect s a)
  | left : Queries s left → Queries s (.join kind left right p)
  | right : Queries s right → Queries s (.join kind left right p)

theorem Table.joins_iff : Joins p (.join kind left right q) ↔ p = q ∨ left.Joins p ∨ right.Joins p := by
  constructor
  case mp =>
    intro h
    cases h
    case on => exact .inl rfl
    case left h => exact .inr (.inl h)
    case right h => exact .inr (.inr h)
  case mpr =>
    rintro (rfl | h | h)
    · exact .on
    · exact .left h
    · exact .right h

theorem Table.queries_iff : Queries s (.join kind left right q) ↔ left.Queries s ∨ right.Queries s := by
  constructor
  case mp =>
    intro h
    cases h
    case left h => exact .inl h
    case right h => exact .inr h
  case mpr => exact fun h => h.elim .left .right

-- A table is rendered where its conditions and its sub-selects are.
theorem Table.exists_render_iff (cx : Context) (t : Table) : (∃ f, t.render cx = .ok f) ↔
    (∀ p, t.Joins p → ∃ g, p.render cx = .ok g) ∧ ∀ s, t.Queries s → ∃ g, s.render cx = .ok g := by
  cases t
  case physical id a =>
    refine ⟨fun _ => ⟨nofun, nofun⟩, fun _ => ?_⟩
    cases a <;> rw [Table.render]
    case none => exact ⟨_, rfl⟩
    case some =>
      split
      all_goals exact ⟨_, rfl⟩
  case join kind left right condition =>
    have hjoin : (∃ f, (Table.join kind left right condition).render cx = .ok f) ↔
        (∃ f, left.render cx = .ok f) ∧ (∃ f, right.render cx = .ok f) ∧ ∃ f, condition.render cx = .ok f := by
      rw [Table.render]
      cases left.render cx <;> cases right.render cx <;> cases condition.render cx <;>
        simp [Bind.bind, Except.bind, Pure.pure, Except.pure]
    rw [hjoin, left.exists_render_iff cx, right.exists_render_iff cx]
    simp only [joins_iff, queries_iff, or_imp, forall_and, forall_eq]
    tauto
  case subSelect s a =>
    have hquery : (∃ f, (Table.subSelect s a).render cx = .ok f) ↔ ∃ f, s.render cx = .ok f := by
      rw [Table.render]
      cases s.render cx <;> simp [Bind.bind, Except.bind, Pure.pure, Except.pure]
    rw [hquery]
    refine ⟨fun h => ⟨nofun, ?_⟩, fun h => h.2 s .subSelect⟩
    rintro _ ⟨⟩
    exact h
termination_by structural t

-- Reads a text as the tables of a query.
def Dialect.readSource (d : Dialect) (bound : Nat) (text : String) (params : List Value) : Option SourceTree := do
  let (e, r) ← SourceTree.ofLexemes d (← d.read bound text params)
  if r.isEmpty then return e else none

-- The text of a table is read as its tree, whatever ends it there, and so is the part of a query in which it
-- stands. Tables that have one text have one tree.
theorem Table.readSource_render {cx : Context} (hcx : cx.dialect ∈ Dialect.builtins) (t : Table) :
    ((∃ f, t.render cx = .ok f) ↔
      (∀ p, t.Joins p → ∃ g, p.render cx = .ok g) ∧ ∀ s, t.Queries s → ∃ g, s.render cx = .ok g) ∧
    ∀ f, t.render cx = .ok f → ∃ e ls, t.source cx = .ok e ∧
      (∀ n, cx.dialect.read n (f.text cx.dialect n) f.params = some ls ∧
        cx.dialect.readSource n (f.text cx.dialect n) f.params = some e) ∧
      (∀ after, SourceTree.Finishes cx.dialect after →
        SourceTree.ofLexemes cx.dialect (ls ++ after) = some (e, after)) ∧
      (∀ n u g, render cx u = .ok g → g.text cx.dialect n = f.text cx.dialect n → g.params = f.params →
        u.source cx = .ok e) ∧
      ∀ s g, s.table = t → Select.render cx s = .ok g → ∀ n, ∃ before after,
        cx.dialect.read n (g.text cx.dialect n) g.params =
          some (before ++ .token ⟨.word, "FROM".toList⟩ :: (ls ++ after)) ∧
        SourceTree.ofLexemes cx.dialect (ls ++ after) = some (e, after) := by
  refine ⟨t.exists_render_iff cx, fun f h => ?_⟩
  have hread {u : Table} {g : Fragment} (hu : u.render cx = .ok g) (n : Nat) :
      cx.dialect.read n (g.text cx.dialect n) g.params = some (g.lexemes cx.dialect) :=
    Fragment.read_text hcx (u.whole_render cx hcx g hu) n
  have hsource {u : Table} {g : Fragment} (hu : u.render cx = .ok g) :
      ∃ e, u.source cx = .ok e ∧ ∀ n, cx.dialect.readSource n (g.text cx.dialect n) g.params = some e := by
    obtain ⟨e, he, hforms⟩ := u.forms_render cx hcx g hu
    have : SourceTree.ofLexemes cx.dialect (g.lexemes cx.dialect) = some (e, []) := by
      simpa using hforms.ofLexemes_append (.nil _)
    exact ⟨e, he, fun n => by simp [Dialect.readSource, hread hu, this]⟩
  obtain ⟨e, he, hforms⟩ := t.forms_render cx hcx f h
  obtain ⟨e', he', htext⟩ := hsource h
  cases he.symm.trans he'
  have hafter (after : List Lexeme) (ha : SourceTree.Finishes cx.dialect after) := hforms.ofLexemes_append ha
  refine ⟨e, f.lexemes cx.dialect, he, fun n => ⟨hread h n, htext n⟩, hafter, ?_, ?_⟩
  · intro n u g hu hg hparams
    obtain ⟨e', he', htext'⟩ := hsource hu
    have := htext' n
    rw [hg, hparams, htext n] at this
    cases this
    exact he'
  · rintro s g rfl hg n
    have htext := Fragment.read_text hcx (s.whole_render cx hcx g hg) n
    obtain ⟨head, source, rest, rfl, hs, hrest⟩ := s.exists_source hcx g hg
    cases h.symm.trans hs
    have hfrom : ∀ l ∈ Lexis.vendors, l.words " FROM " = [⟨.word, "FROM".toList⟩] := by decide
    refine ⟨head.lexemes cx.dialect, rest.lexemes cx.dialect, ?_, hafter _ hrest.finishes⟩
    simpa [lexemes_words, hfrom _ (Dialect.lexis_mem hcx)] using htext

-- Joins on both sides, a table whose alias is its name, and an offset after an alias of the same word.
theorem Table.readSource_nested :
    let column (name : String) : ColumnDef := ⟨name, .int .bits32, false, false, false, none⟩
    let catalog : Catalog := ⟨[⟨"note", [column "id"], [0], [], []⟩, ⟨"tag", [column "note"], [0], [], []⟩]⟩
    let id (owner : String) : Column := .physical ⟨0, 0⟩ (some owner)
    let tag : Column := .physical ⟨1, 0⟩ (some "offset")
    let first : Select := .new (.physical 0 none) [id "note"]
    let t : Table := .join .left (.physical 0 (some "note"))
      (.join .inner (.subSelect first "first") (.physical 1 (some "offset")) (.comparison .eq (id "first") tag))
      (.comparison .lt (id "note") tag)
    let s : Select := { Select.new t [tag] with offset := some 3 }
    let cx : Context := .new catalog .oracle none
    ∃ f g e e₁ e₂ q, t.render cx = .ok f ∧ s.render cx = .ok g ∧
      g.text .oracle 0 = "SELECT OFFSET.NOTE FROM NOTE LEFT JOIN " ++
        "(SELECT NOTE.ID FROM NOTE) FIRST INNER JOIN TAG OFFSET ON FIRST.ID = OFFSET.NOTE ON NOTE.ID < OFFSET.NOTE " ++
        "OFFSET :1 ROWS" ∧
      Dialect.oracle.readSource 0 (f.text .oracle 0) f.params = some e ∧
      (∃ before ls after, SourceTree.ofLexemes .oracle (ls ++ after) = some (e, after) ∧
        Dialect.oracle.read 0 (g.text .oracle 0) g.params =
          some (before ++ .token ⟨.word, "FROM".toList⟩ :: (ls ++ after))) ∧
      e = .join .left (.table "NOTE" none)
        (.join .inner (.query q "FIRST") (.table "TAG" (some "OFFSET")) e₁) e₂ := by
  intro column catalog id tag first t s cx
  have htext : (s.render cx).toOption.map (·.text .oracle 0) = some ("SELECT OFFSET.NOTE FROM NOTE LEFT JOIN " ++
      "(SELECT NOTE.ID FROM NOTE) FIRST INNER JOIN TAG OFFSET ON FIRST.ID = OFFSET.NOTE ON NOTE.ID < OFFSET.NOTE " ++
      "OFFSET :1 ROWS") := by
    decide +kernel
  have htable : (t.render cx).toOption.isSome = true := by decide +kernel
  have hnames : Dialect.oracle.storedName "note" = "NOTE" ∧ Dialect.oracle.storedName "tag" = "TAG" ∧
      Dialect.oracle.storedName "first" = "FIRST" ∧ Dialect.oracle.storedName "offset" = "OFFSET" := by
    decide
  have hcx : cx.dialect ∈ Dialect.builtins := by simp [cx, Context.new, Dialect.builtins]
  obtain ⟨g, hg, htext⟩ := Option.map_eq_some_iff.mp htext
  obtain ⟨f, hf⟩ := Option.isSome_iff_exists.mp htable
  obtain ⟨-, hread⟩ := readSource_render hcx t
  obtain ⟨e, ls, he, hsource, -, -, hplace⟩ := hread f (Result.toOption_eq_some.mp hf)
  obtain ⟨before, after, hsql, hfrom⟩ := hplace s g rfl (Result.toOption_eq_some.mp hg) 0
  obtain ⟨hnote, htag, hfirst, hoffset⟩ := hnames
  have htables : cx.catalog.tableName 0 = "note" ∧ cx.catalog.tableName 1 = "tag" := ⟨rfl, rfl⟩
  have hdialect : cx.dialect = .oracle := rfl
  refine ⟨f, g, e, ?_⟩
  simp only [t, Table.source, Result.bind_eq_ok, htables, hdialect, hnote, htag, hfirst, hoffset, Except.ok.injEq,
    Pure.pure, Except.pure, exists_eq_left', Option.bind_some, if_true, if_false, String.reduceEq] at he
  obtain ⟨_, ⟨_, ⟨q, -, rfl⟩, e₁, -, rfl⟩, e₂, -, rfl⟩ := he
  exact ⟨e₁, e₂, _, Result.toOption_eq_some.mp hf, Result.toOption_eq_some.mp hg, htext, (hsource 0).2,
    ⟨before, ls, after, hfrom, hsql⟩, rfl⟩

end PolySql
