import PolySql.Proofs.Sql.Rendering
import PolySql.Proofs.Sql.Outcome

namespace PolySql

open Fragment

theorem Yields.mapM {α β : Type} {p : β → Prop} {f : α → Result β} (h : ∀ a, Yields p (f a)) (as : List α) :
    Yields (∀ b ∈ ·, p b) (as.mapM f) := by
  induction as
  case nil => exact .ok (by simp)
  case cons a r ih =>
    rw [List.mapM_cons]
    exact (h a).bind fun b hb => ih.bind fun bs hbs => .ok (List.forall_mem_cons.mpr ⟨hb, hbs⟩)

section

variable {cx : Context} (hcx : cx.dialect ∈ Dialect.builtins)

include hcx

theorem tail_renderReturning (returning : List Column) :
    Yields (Tail cx.dialect) (renderReturning cx returning) := by
  unfold renderReturning
  split
  case isTrue => exact .ok (.nil _)
  case isFalse =>
    refine (Yields.trivial _).bind fun _ _ => ?_
    exact (Column.whole_renderAll cx.unqualified hcx none returning).bind fun _ h =>
      .ok (.after hcx (by decide) (.joined hcx (by decide) h))

theorem head_renderDmlLimit (c : Capability) (operation : String) (limit : Option Int64) :
    Yields (Head cx.dialect) (renderDmlLimit cx .top c operation limit) := by
  cases limit
  case none => exact .ok (.nil _)
  case some n =>
    refine (Yields.trivial _).bind fun _ _ => ?_
    dsimp only
    split
    case isTrue => exact (whole_rowCount _ _ n).bind fun _ h => .ok (.enclosed hcx (by decide) h (by decide))
    case isFalse => exact .ok (.nil _)

theorem tail_renderDmlLimit (c : Capability) (operation : String) (limit : Option Int64) :
    Yields (Tail cx.dialect) (renderDmlLimit cx .suffix c operation limit) := by
  cases limit
  case none => exact .ok (.nil _)
  case some n =>
    refine (Yields.trivial _).bind fun _ _ => ?_
    dsimp only
    split
    case isTrue => exact (phrase_limitClause hcx n).bind fun _ h => .ok (.blank hcx h)
    case isFalse => exact .ok (.nil _)

namespace Insert

theorem whole_columnList (columns : List ColumnId) : Whole cx.dialect (columnList cx columns) := by
  refine .parenthesised hcx (.joined hcx (by decide) ?_)
  simp only [List.forall_mem_map]
  exact fun id _ => .name hcx _ 0

theorem whole_renderCells (columns : List ColumnId) (values : List Column) :
    Yields (∀ f ∈ ·, Whole cx.dialect f) (renderCells cx columns values) := by
  induction columns generalizing values
  case nil => exact .ok (by simp)
  case cons id ids ih =>
    cases values
    case nil => exact .ok (by simp)
    case cons value values =>
      exact (value.whole_render cx hcx _).bind fun _ hf =>
        (ih values).bind fun _ h => .ok (List.forall_mem_cons.mpr ⟨hf, h⟩)

theorem whole_renderRow (columns : List ColumnId) (row : List Column) :
    Yields (Whole cx.dialect) (renderRow cx columns row) :=
  (whole_renderCells hcx columns row).bind fun _ h => .ok (.joined hcx (by decide) h)

theorem clause_renderValues (columns : List ColumnId) (rows : List (List Column)) :
    Yields (Clause cx.dialect) (renderValues cx columns rows) := by
  have hdefault : ∀ d ∈ Dialect.builtins, ∀ tail ∈ d.defaultValues, d.lexis.closing 0 tail 0 = true := by
    decide
  have htuples : Yields (Clause cx.dialect) (do
      let tuples ← rows.mapM (renderRow cx columns)
      return words " " ++ columnList cx columns ++ words " VALUES " ++
        parenthesised (joined "), (" tuples)) := by
    refine (Yields.mapM (whole_renderRow hcx columns) rows).bind fun tuples h => .ok ?_
    have hlist : Clause cx.dialect (words " " ++ _) := .after hcx (by decide) (whole_columnList hcx columns)
    rw [List.append_assoc]
    exact hlist.append (.after hcx (by decide) (.enclosed hcx (.joined hcx (by decide) h)))
  unfold renderValues
  split
  case isTrue =>
    split
    case h_1 tail htail =>
      dsimp only
      split
      case isTrue => exact .error _
      case isFalse =>
        have htail := hdefault _ hcx tail htail
        rw [Lexis.closing, Bool.and_eq_true] at htail
        exact .ok ⟨.words htail.1, .words htail.2 []⟩
    case h_2 =>
      dsimp only
      split
      case isTrue => exact .error _
      case isFalse => exact .error _
  case isFalse =>
    split
    case isTrue => exact (Yields.trivial _).bind fun _ _ => htuples
    case isFalse => exact htuples

theorem whole_conflictUpdate (columns : List ColumnId)
    (hbefore : ∀ l ∈ Lexis.vendors, l.joining 0 before k = true)
    (hafter : after = "" ∧ k = 0 ∨ after.isEmpty = false ∧ ∀ l ∈ Lexis.vendors, l.closing k after 0 = true) :
    Whole cx.dialect (conflictUpdate cx before after columns) := by
  refine .joined hcx (by decide) ?_
  simp only [List.forall_mem_map]
  intro id _
  have hname (i : Nat) : Sound cx.dialect i (name (cx.catalog.columnName id)) i := .name hcx _ i
  have hset := (hname 0).between hcx hbefore (hname k)
  rcases hafter with ⟨rfl, rfl⟩ | ⟨he, hafter⟩
  case inl => simpa using hset
  case inr => simpa [he] using hset.before hcx hafter

theorem clause_renderOnConflict (conflict : OnConflict) :
    Yields (Clause cx.dialect) (renderOnConflict cx conflict) := by
  have htarget : Clause cx.dialect (if conflict.target.isEmpty then []
      else words " " ++ columnList cx conflict.target) := by
    split
    case isTrue => exact .nil _
    case isFalse => exact .after hcx (by decide) (whole_columnList hcx _)
  have hon : Clause cx.dialect (words " ON CONFLICT") := .words hcx (by decide)
  unfold renderOnConflict
  dsimp only
  split
  case h_1 => exact .ok ((hon.append htarget).append (.words hcx (by decide)))
  case h_2 columns _ =>
    split
    case isTrue => exact .error _
    case isFalse =>
      have hset : Whole cx.dialect (conflictUpdate cx " = EXCLUDED." "" columns) :=
        whole_conflictUpdate hcx columns (by decide) (.inl ⟨rfl, rfl⟩)
      exact .ok ((hon.append htarget).append (.after hcx (by decide) hset))

theorem clause_renderOnDuplicateKey (table : TableId) (action : ConflictAction) :
    Yields (Clause cx.dialect) (renderOnDuplicateKey cx table action) := by
  unfold renderOnDuplicateKey
  cases action
  case doNothing =>
    dsimp only
    split
    case isTrue => exact .error _
    case isFalse =>
      exact .ok (.after hcx (by decide) (whole_conflictUpdate hcx _ (by decide) (.inl ⟨rfl, rfl⟩)))
  case update columns =>
    dsimp only
    split
    case isTrue => exact .error _
    case isFalse =>
      have hset : Whole cx.dialect (conflictUpdate cx " = VALUES(" ")" columns) :=
        whole_conflictUpdate (k := 1) hcx columns (by decide) (.inr (by decide))
      exact .ok (.after hcx (by decide) hset)

theorem clause_renderConflict (table : TableId) (conflict : Option OnConflict) :
    Yields (Clause cx.dialect) (renderConflict cx table conflict) := by
  cases conflict
  case none => exact .ok (.nil _)
  case some conflict =>
    refine (Yields.trivial _).bind fun _ _ => ?_
    split
    case h_1 => exact clause_renderOnConflict hcx conflict
    case h_2 => exact clause_renderOnDuplicateKey hcx table conflict.action
    case h_3 => exact .error _

theorem whole_render (i : Insert) : Yields (Whole cx.dialect) (i.render cx) := by
  refine (clause_renderValues hcx i.columns i.rows).bind fun _ hvalues => ?_
  refine (clause_renderConflict hcx i.table i.onConflict).bind fun _ hconflict => ?_
  refine (tail_renderReturning hcx i.returning).bind fun _ hreturning => .ok ?_
  have hinto : Whole cx.dialect (words "INSERT INTO " ++ name (cx.catalog.tableName i.table)) :=
    .after hcx (by decide) (.name hcx _ 0)
  exact ((hinto.append_clause hvalues).append_clause hconflict).append_clause hreturning.toClause

end Insert

namespace Update

theorem whole_renderValues (values : List (ColumnId × Column)) :
    Yields (∀ f ∈ ·, Whole cx.dialect f) (renderValues cx values) := by
  induction values
  case nil => exact .ok (by simp)
  case cons v r ih =>
    refine (v.2.whole_render cx hcx _).bind fun _ hf => ih.bind fun _ h => .ok ?_
    exact List.forall_mem_cons.mpr ⟨(Sound.name hcx _ 0).between hcx (by decide) hf, h⟩

theorem whole_render (u : Update) : Yields (Whole cx.dialect) (u.render cx) := by
  unfold render
  split
  case isTrue => exact .error _
  case isFalse =>
    refine (Yields.trivial _).bind fun _ _ => ?_
    refine (head_renderDmlLimit hcx _ _ u.limit).bind fun _ htop => ?_
    refine (whole_renderValues hcx u.values).bind fun _ hvalues => ?_
    refine (u.predicate.tail_renderAfter hcx (u.predicate.whole_render cx hcx) (by decide)).bind
      fun _ hfilter => ?_
    refine (tail_renderDmlLimit hcx _ _ u.limit).bind fun _ hlimit => ?_
    refine (tail_renderReturning hcx u.returning).bind fun _ hreturning => .ok ?_
    have hhead : Head cx.dialect (words "UPDATE ") := .words hcx (by decide)
    have hlist : Whole cx.dialect (joined ", " _) := .joined hcx (by decide) hvalues
    have hset := ((hhead.append htop).whole_append (.name hcx (cx.catalog.tableName u.table) 0)).between hcx
      (w := " SET ") (by decide) hlist
    simpa only [List.append_assoc, name] using hset.append_clause ((hfilter.append hlimit).append hreturning).toClause

end Update

theorem Delete.whole_render (s : Delete) : Yields (Whole cx.dialect) (s.render cx) := by
  refine (head_renderDmlLimit hcx _ _ s.limit).bind fun _ htop => ?_
  refine (s.predicate.tail_renderAfter hcx (s.predicate.whole_render cx hcx) (by decide)).bind
    fun _ hfilter => ?_
  refine (tail_renderDmlLimit hcx _ _ s.limit).bind fun _ hlimit => ?_
  refine (tail_renderReturning hcx s.returning).bind fun _ hreturning => .ok ?_
  have hhead : Head cx.dialect (words "DELETE ") := .words hcx (by decide)
  have hfrom : Head cx.dialect (words "FROM ") := .words hcx (by decide)
  have htable := ((hhead.append htop).append hfrom).whole_append (.name hcx (cx.catalog.tableName s.table) 0)
  simpa only [List.append_assoc, name] using htable.append_clause ((hfilter.append hlimit).append hreturning).toClause

end

namespace Statement

-- Is the statement one of those that the library writes itself?
def isBuilt : Statement → Bool
  | select _ | insert _ | update _ | delete _ => true
  | raw _ | schema _ => false

theorem exists_render {cx : Context} {s : Statement} (hs : s.isBuilt = true) (h : s.compile cx = .ok c) :
    ∃ r : Result Fragment, (cx.dialect ∈ Dialect.builtins → Yields (Whole cx.dialect) r) ∧
      ∃ f, r = .ok f ∧ cx.command f = .ok c := by
  cases s
  case select s => exact ⟨_, s.whole_render cx, Result.bind_eq_ok.mp h⟩
  case insert i => exact ⟨_, fun hcx => i.whole_render hcx, Result.bind_eq_ok.mp h⟩
  case update u => exact ⟨_, fun hcx => u.whole_render hcx, Result.bind_eq_ok.mp h⟩
  case delete s => exact ⟨_, fun hcx => s.whole_render hcx, Result.bind_eq_ok.mp h⟩
  all_goals nomatch hs

-- The text of a compiled statement can be split into tokens, and the placeholders among them are the ones
-- of the first numbers, as many as there are parameters.
theorem placeholders_compile {d : Dialect} (hd : d ∈ Dialect.builtins) (catalog : Catalog)
    (version : Option Version) (s : Statement) (hs : s.isBuilt = true)
    (h : s.compile (.new catalog d version) = .ok c) :
    c.params.length ≤ d.maxParameters ∧
    ∃ ts, d.lexis.tokens c.sql.toList = some ts ∧ ts.flatMap (·.chars) = c.sql.toList ∧
      (ts.filter (·.kind = .placeholder)).map (·.chars) =
        (List.range c.params.length).map fun k => (d.placeholder.text (k + 1)).toList := by
  obtain ⟨r, hr, f, hf, hc⟩ := exists_render hs h
  obtain ⟨rfl, hle⟩ := Context.of_command hc
  have hread := Fragment.read_text hd (hr hd f hf) 0
  obtain ⟨ts, ht, hresolve⟩ := Option.bind_eq_some_iff.mp hread
  have hp := Dialect.placeholders_of_resolve hresolve
  simp only [Nat.zero_add] at hp
  exact ⟨hle, ts, ht, Lexis.flatMap_chars_tokens ht, hp⟩

-- Question marks in names, in literals and after a backslash are none of the three placeholders.
theorem placeholders_between_quotes :
    let column (name : String) (type : ColumnType) : ColumnDef := ⟨name, type, false, false, false, none⟩
    let table : TableDef :=
      ⟨"wh\x60y?", [column "id" (.int .bits32), column "who?" (.string none)], [0], [], []⟩
    let who : Column := .physical ⟨0, 1⟩ none
    let inner := (Select.new (.physical 0 (some "in?")) [.literal (.text "?'")]).filter
      (.startsWith who (.param (.text "?")))
    let s : Statement := .select <| (Select.new (.physical 0 none) [.literal (.text "\\?"), .subSelect inner]).filter
      (.inList (.physical ⟨0, 0⟩ none) [.param (.int 1), .literal (.int 2), .param (.int 3)])
    let cx : Context := .new ⟨[table]⟩ .mySql none
    s.isBuilt = true ∧ ∃ c, s.compile cx = .ok c ∧ c.params.length = 3 ∧
      ∃ ts, Dialect.mySql.lexis.tokens c.sql.toList = some ts ∧
        (ts.filter (·.kind = .placeholder)).map (·.chars) = [['?'], ['?'], ['?']] := by
  intro column table who inner s cx
  have hcount : (s.compile cx).toOption.map (·.params.length) = some 3 := by decide +kernel
  obtain ⟨c, hc, hl⟩ := Option.map_eq_some_iff.mp hcount
  have hc : s.compile cx = .ok c := by
    cases h : s.compile cx <;> rw [h] at hc <;> cases hc
    rfl
  obtain ⟨-, ts, ht, -, hp⟩ := placeholders_compile (d := .mySql) (by simp [Dialect.builtins]) _ none s rfl hc
  rw [hl] at hp
  exact ⟨rfl, c, hc, hl, ts, ht, hp⟩

end Statement

end PolySql
