import PolySql.Proofs.Query.Gaps
import PolySql.Proofs.Sql.Literal
import PolySql.Proofs.Statement.Assignment

namespace PolySql

open Fragment

-- What is hollow in the rows of an insert. Those without columns are not written.
def Insert.rowHollows (columns : List ColumnId) (rows : List (List Column)) : List Hollow :=
  if columns.isEmpty then []
  else Hollow.row.ofList (rows.map fun row => Hollow.row.ofList (Column.allHollows ((columns.zip row).map (·.2))))

-- The empty lists that a dialect has in an insert with default values only.
def Dialect.defaultGaps (d : Dialect) : List Opener :=
  d.defaultValues.elim [] fun tail => Cue.gaps (d.lexis.cues tail)

namespace Statement

-- What is hollow in the text of a statement, in its order.
def hollows : Statement → List Hollow
  | select s => s.hollows
  | insert i => Insert.rowHollows i.columns i.rows ++ (Column.allHollows i.returning).flatten
  | update u => (Column.allHollows (u.values.map (·.2))).flatten ++ u.predicate.hollows ++
      (Column.allHollows u.returning).flatten
  | delete s => s.predicate.hollows ++ (Column.allHollows s.returning).flatten
  | raw _ | schema _ => []

-- The empty lists of a statement that are the dialect's own.
def ownGaps (d : Dialect) : Statement → List Opener
  | insert i => if i.columns.isEmpty then d.defaultGaps else []
  | _ => []

end Statement

theorem Yields.forall₂_mapM {α β : Type} {p : α → β → Prop} {f : α → Result β} (h : ∀ a, Yields (p a) (f a))
    (as : List α) : Yields (List.Forall₂ p as) (as.mapM f) :=
  fun _ hbs => (Result.mapM_eq_ok.mp hbs).imp fun a b hab => h a b hab

namespace Fragment

variable {d : Dialect} {f g : Fragment} {fs : List Fragment} {hs hs' : List Hollow} {hss : List (List Hollow)}

-- Lists in parentheses one after another, from within the first to within the last.
theorem finds_rows (h : List.Forall₂ (fun f hs => Finds d (some .parenthesis) f (hs.map Hollow.opener)) fs hss) :
    Finds d (some .parenthesis) (joined "), (" fs) ((Hollow.row.ofList hss).map Hollow.opener) := by
  have hw : Survey.Breaks "), (" (some .parenthesis) := by decide
  cases h
  case nil => exact ⟨[], some .parenthesis, rfl, rfl⟩
  case cons f hs fs hss hf hfs =>
    rw [Hollow.ofList]
    case x_1 => nofun
    induction hfs generalizing f hs
    case nil => simpa [joined] using hf
    case cons g hs' fs hss hg _ ih =>
      simpa [joined, words] using hf.append (.after _ hw (ih hg))

end Fragment

section

variable {cx : Context}

theorem keeps_renderDmlLimit (d : Dialect) (c : Capability) (operation : String) (limit : Option Int64) :
    Yields (Keeps d) (renderDmlLimit cx .top c operation limit) := by
  cases limit
  case none => exact .ok (.nil _)
  case some n =>
    refine (Yields.trivial _).bind fun _ _ => ?_
    dsimp only
    split
    case isTrue => exact (keeps_topCount d n).bind fun _ h => .ok h
    case isFalse => exact .ok (.nil _)

theorem adds_renderDmlLimit (d : Dialect) (c : Capability) (operation : String) (limit : Option Int64) :
    Yields (Adds d · []) (renderDmlLimit cx .suffix c operation limit) := by
  cases limit
  case none => exact .ok (.nil _)
  case some n =>
    refine (Yields.trivial _).bind fun _ _ => ?_
    dsimp only
    split
    case isTrue => exact (ends_limitClause d n).bind fun _ h => .ok h.blank.adds
    case isFalse => exact .ok (.nil _)

namespace Insert

theorem fills_columnList {columns : List ColumnId} (h : columns ≠ []) :
    Fills cx.dialect (columnList cx columns) [] := by
  have hnames : Fills cx.dialect (joined ", " (columns.map fun id => name (cx.catalog.columnName id))) [] :=
    fills_joined_of_forall (List.forall_mem_map.mpr fun id _ => .name _ _) (by simpa using h)
  exact .parenthesised (hnames.heads _)

theorem fills_conflictUpdate {before after : String} {columns : List ColumnId} (hne : columns ≠ [])
    (hbefore : Survey.Takes before o)
    (hafter : after.isEmpty = false → Reads cx.dialect (.list none) (words after) [] (.list none)) :
    Fills cx.dialect (conflictUpdate cx before after columns) [] := by
  refine fills_joined_of_forall (List.forall_mem_map.mpr fun id _ due => ?_) (by simpa using hne)
  have hname := Fills.name cx.dialect (cx.catalog.columnName id)
  have hset := (hname.append (.after (.words _ hbefore) hname)) due
  cases he : after.isEmpty
  case true => simpa [he] using hset
  case false => simpa [he] using hset.append (hafter he)

theorem ends_renderOnConflict (conflict : OnConflict) :
    Yields (Ends cx.dialect · []) (renderOnConflict cx conflict) := by
  have htarget : Reads cx.dialect (.list none)
      (if conflict.target.isEmpty then [] else words " " ++ columnList cx conflict.target) [] (.list none) := by
    split
    case isTrue => rfl
    case isFalse h =>
      exact (Keeps.blank _ none).append (fills_columnList (by simpa using h) none)
  have hon : Ends cx.dialect (words " ON CONFLICT" ++ _) [] := (Ends.words _ (by decide)).append htarget
  unfold renderOnConflict
  dsimp only
  split
  case h_1 =>
    have hnothing : Fills cx.dialect (words " DO NOTHING") [] := .words _ (by decide)
    exact .ok (hon.append (hnothing none))
  case h_2 columns _ =>
    split
    case isTrue => exact .error _
    case isFalse h =>
      have hset : Opens cx.dialect (words " DO UPDATE SET ") (some .set) := .words _ (by decide)
      have hlist : Fills cx.dialect (conflictUpdate cx " = EXCLUDED." "" columns) [] :=
        fills_conflictUpdate (o := none) (by simp_all) (by decide) nofun
      exact .ok (hon.append (Fills.after hset hlist none))

theorem ends_renderOnDuplicateKey (table : TableId) (action : ConflictAction) :
    Yields (Ends cx.dialect · []) (renderOnDuplicateKey cx table action) := by
  have hkey : Survey.Breaks " ON DUPLICATE KEY UPDATE " (some .set) := by decide
  unfold renderOnDuplicateKey
  cases action
  case doNothing =>
    dsimp only
    split
    case isTrue => exact .error _
    case isFalse h =>
      exact .ok (.after _ hkey (fills_conflictUpdate (o := none) (by simpa using h) (by decide) nofun))
  case update columns =>
    dsimp only
    split
    case isTrue => exact .error _
    case isFalse h =>
      have hclosing : Reads cx.dialect (.list none) (words ")") [] (.list none) := .words (by decide)
      exact .ok (.after _ hkey
        (fills_conflictUpdate (o := some .parenthesis) (by simpa using h) (by decide) fun _ => hclosing))

theorem adds_renderConflict (table : TableId) (conflict : Option OnConflict) :
    Yields (Adds cx.dialect · []) (renderConflict cx table conflict) := by
  cases conflict
  case none => exact .ok (.nil _)
  case some conflict =>
    refine (Yields.trivial _).bind fun _ _ => ?_
    split
    case h_1 => exact (ends_renderOnConflict conflict).mono fun _ h => h.adds
    case h_2 => exact (ends_renderOnDuplicateKey table conflict.action).mono fun _ h => h.adds
    case h_3 => exact .error _

end Insert

variable (hd : cx.dialect.Simple)

include hd

theorem adds_renderReturning (returning : List Column) :
    Yields (Adds cx.dialect · (Column.allHollows returning).flatten) (renderReturning cx returning) := by
  cases returning
  case nil => exact .ok (.nil _)
  case cons a r =>
    refine (Yields.trivial _).bind fun _ _ => ?_
    refine (Column.fills_renderAll cx.unqualified hd none (a :: r)).bind fun _ h => .ok ?_
    exact .after (some .returning) (by decide) ((h.joined Survey.separates_comma nofun).heads _)

namespace Insert

theorem fills_renderCells (columns : List ColumnId) (values : List Column) :
    Yields (FillAll cx.dialect · (Column.allHollows ((columns.zip values).map (·.2))))
      (renderCells cx columns values) := by
  induction columns generalizing values
  case nil => exact .ok .nil
  case cons id ids ih =>
    cases values
    case nil => exact .ok .nil
    case cons value values =>
      exact (value.fills_render cx hd _).bind fun _ hf => (ih values).bind fun _ h => .ok (.cons hf h)

theorem finds_renderRow (columns : List ColumnId) (row : List Column) :
    Yields (Finds cx.dialect (some .parenthesis) ·
      ((Hollow.row.ofList (Column.allHollows ((columns.zip row).map (·.2)))).map Hollow.opener))
      (renderRow cx columns row) :=
  (fills_renderCells hd columns row).bind fun _ h => .ok (h.finds .row Survey.separates_comma)

theorem reads_rows {columns : List ColumnId} (rows : List (List Column)) (hne : columns ≠ []) :
    Yields (fun fs => Reads cx.dialect (.list none) (words " " ++ columnList cx columns ++ words " VALUES " ++
        parenthesised (joined "), (" fs)) ((rowHollows columns rows).map Hollow.opener) (.list none))
      (rows.mapM (renderRow cx columns)) := by
  refine (Yields.forall₂_mapM (finds_renderRow hd columns) rows).mono fun fs h => ?_
  have hcolumns := (Keeps.blank cx.dialect none).append (fills_columnList hne none)
  have hvalues : Fills cx.dialect (words " VALUES ") [] := .words _ (by decide)
  have hrows : Fills cx.dialect (parenthesised (joined "), (" fs)) (rowHollows columns rows) := by
    rw [rowHollows, if_neg (by simpa using hne)]
    exact .parenthesised (finds_rows (List.forall₂_map_right_iff.mpr h.flip))
  exact (hcolumns.append (hvalues none)).append (hrows none)

theorem reads_renderValues (i : Insert) : Yields (fun f => Reads cx.dialect (.list none) f
      ((Statement.insert i).ownGaps cx.dialect ++ (rowHollows i.columns i.rows).map Hollow.opener) (.list none))
    (renderValues cx i.columns i.rows) := by
  unfold renderValues
  rw [Statement.ownGaps]
  split
  case isTrue hempty =>
    split
    case h_1 tail htail =>
      dsimp only
      split
      case isTrue => exact .error _
      case isFalse =>
        obtain ⟨gaps, hgaps⟩ := hd.defaults tail htail
        have hown : cx.dialect.defaultGaps = gaps := by
          simpa [Dialect.defaultGaps, htail, cues, words, Piece.cues] using hgaps.finds.gaps_eq
        refine .ok ?_
        rwa [rowHollows, if_pos hempty, List.map_nil, List.append_nil, hown]
    case h_2 =>
      dsimp only
      split
      case isTrue => exact .error _
      case isFalse => exact .error _
  case isFalse hne =>
    have hrows := reads_rows hd i.rows (by simpa using hne)
    rw [List.nil_append]
    split
    case isTrue => exact (Yields.trivial _).bind fun _ _ => hrows.bind fun _ h => .ok h
    case isFalse => exact hrows.bind fun _ h => .ok h

theorem finds_render (i : Insert) : Yields (fun f => Finds cx.dialect none f
      ((Statement.insert i).ownGaps cx.dialect ++ (Statement.insert i).hollows.map Hollow.opener)) (i.render cx) := by
  refine (reads_renderValues hd i).bind fun _ hvalues => ?_
  refine (adds_renderConflict i.table i.onConflict).bind fun _ hconflict => ?_
  refine (adds_renderReturning hd i.returning).bind fun _ hreturning => .ok ?_
  have hinto : Fills cx.dialect (words "INSERT INTO ") [] := .words _ (by decide)
  have hhead := (hinto.append (.name _ (cx.catalog.tableName i.table)) none).append hvalues
  simpa [Statement.hollows] using (hhead.finds.append hconflict).append hreturning

end Insert

namespace Update

theorem fills_renderValues (values : List (ColumnId × Column)) :
    Yields (FillAll cx.dialect · (Column.allHollows (values.map (·.2)))) (renderValues cx values) := by
  induction values
  case nil => exact .ok .nil
  case cons v r ih =>
    refine (v.2.fills_render cx hd _).bind fun _ hf => ih.bind fun _ h => .ok (.cons ?_ h)
    exact (Fills.name _ _).between (by decide) hf

theorem heads_render (u : Update) : Yields (Heads cx.dialect · (Statement.update u).hollows) (u.render cx) := by
  unfold render
  split
  case isTrue => exact .error _
  case isFalse hne =>
    refine (Yields.trivial _).bind fun _ _ => ?_
    refine (keeps_renderDmlLimit cx.dialect _ _ u.limit).bind fun top htop => ?_
    refine (fills_renderValues hd u.values).bind fun values hvalues => ?_
    refine (u.predicate.adds_renderAfter (u.predicate.fills_render cx hd) (by decide)).bind fun _ hfilter => ?_
    refine (adds_renderDmlLimit cx.dialect _ _ u.limit).bind fun _ hlimit => ?_
    refine (adds_renderReturning hd u.returning).bind fun _ hreturning => .ok ?_
    have hupdate : Keeps cx.dialect (words "UPDATE ") := .words _ (by decide)
    have hset : Opens cx.dialect (words " SET ") (some .set) := .words _ (by decide)
    have hopens : Opens cx.dialect (words "UPDATE " ++ top ++ name (cx.catalog.tableName u.table) ++ words " SET ")
        (some .set) := by
      intro due
      exact (((hupdate due).append (htop due)).append (Fills.name _ _ due)).append (hset none)
    have hlist := hvalues.joined Survey.separates_comma (Column.allHollows_ne_nil (by simpa using hne))
    simpa [Statement.hollows] using (((hlist.after hopens).heads.append hfilter).append hlimit).append hreturning

end Update

theorem Delete.heads_render (s : Delete) : Yields (Heads cx.dialect · (Statement.delete s).hollows) (s.render cx) := by
  refine (keeps_renderDmlLimit cx.dialect _ _ s.limit).bind fun top htop => ?_
  refine (s.predicate.adds_renderAfter (s.predicate.fills_render cx hd) (by decide)).bind fun _ hfilter => ?_
  refine (adds_renderDmlLimit cx.dialect _ _ s.limit).bind fun _ hlimit => ?_
  refine (adds_renderReturning hd s.returning).bind fun _ hreturning => .ok ?_
  have hdelete : Fills cx.dialect (words "DELETE ") [] := .words _ (by decide)
  have hfrom : Ends cx.dialect (words "FROM " ++ name (cx.catalog.tableName s.table)) [] :=
    .after none (by decide) (.name _ _)
  have hhead := (hdelete.heads.append htop.adds).append hfrom.adds
  simpa [Statement.hollows, name] using ((hhead.append hfilter).append hlimit).append hreturning

end

namespace Lexeme

-- The number of lists in parentheses that stand one after another, where so many parentheses are open.
def tuples : Nat → List Lexeme → Nat
  | _, [] => 0
  | 0, l :: r => if l.isSymbol '(' then tuples 1 r + 1 else if l.isSymbol ',' then tuples 0 r else 0
  | n + 1, l :: r =>
    if l.isSymbol '(' then tuples (n + 2) r else if l.isSymbol ')' then tuples n r else tuples (n + 1) r

theorem tuples_append (h : nesting n a = some m) (b : List Lexeme) : tuples (n + 1) (a ++ b) = tuples (m + 1) b := by
  induction a generalizing n
  case nil =>
    cases h
    rfl
  case cons l r ih =>
    simp only [nesting, List.cons_append, tuples] at h ⊢
    split_ifs at h ⊢
    · exact ih h
    · cases n
      case zero => cases h
      case succ n => exact ih h
    · exact ih h

end Lexeme

namespace Fragment

variable {d : Dialect} {f g : Fragment} {fs : List Fragment}

-- A part of a statement that is left out or begins with a word.
def Worded (d : Dialect) (f : Fragment) : Prop :=
  f = [] ∨ ∃ t ls, t.kind = .word ∧ f.lexemes d = .token t :: ls

theorem Worded.words (w : String) (hw : ∀ l ∈ Lexis.vendors, (l.words w).head?.map Token.kind = some .word)
    (f : Fragment) : Worded d (words w ++ f) := by
  obtain ⟨t, ht, hk⟩ := Option.map_eq_some_iff.mp (hw _ d.lexis_mem_vendors)
  obtain ⟨ts, hts⟩ := List.head?_eq_some_iff.mp ht
  exact .inr ⟨t, _, hk, by rw [lexemes_append, lexemes_words, hts]; rfl⟩

theorem Worded.append (hf : Worded d f) (hg : Worded d g) : Worded d (f ++ g) := by
  rcases hf with rfl | ⟨t, ls, hk, hf⟩
  case inl => exact hg
  case inr => exact .inr ⟨t, ls ++ g.lexemes d, hk, by rw [lexemes_append, hf]; rfl⟩

theorem Worded.tuples_eq (h : Worded d f) : Lexeme.tuples 0 (f.lexemes d) = 0 := by
  rcases h with rfl | ⟨t, ls, hk, h⟩
  case inl => rfl
  case inr =>
    have hsymbol (c : Char) : Lexeme.isSymbol c (.token t) = false := by
      refine beq_eq_false_iff_ne.mpr ?_
      rintro rfl
      nomatch hk
    rw [h, Lexeme.tuples, hsymbol, hsymbol]
    rfl

-- From within the first of several rows to the end of the last.
theorem tuples_joined (h : ∀ f ∈ fs, Whole d f) (hls : Lexeme.tuples 1 ls = 0) :
    Lexeme.tuples 1 ((joined "), (" fs).lexemes d ++ ls) = fs.length - 1 := by
  have hw : ∀ l ∈ Lexis.vendors, l.words "), (" = [⟨.symbol, [')']⟩, ⟨.symbol, [',']⟩, ⟨.symbol, ['(']⟩] := by
    decide
  cases fs
  case nil => exact hls
  case cons f fs =>
    induction fs generalizing f
    case nil =>
      rw [joined, Lexeme.tuples_append (h f (.head _)).nesting, hls]
      rfl
    case cons f' fs ih =>
      rw [List.forall_mem_cons] at h
      have hrest := ih f' h.2
      rw [joined]
      case x_1 => exact List.cons_ne_nil _ _
      rw [← List.singleton_append, ← words, lexemes_append, lexemes_append, lexemes_words, hw _ d.lexis_mem_vendors,
        List.append_assoc, List.append_assoc, Lexeme.tuples_append h.1.nesting]
      exact congrArg (· + 1) hrest

-- An empty list of rows is written as one row with nothing in it.
theorem tuples_rows (h : ∀ f ∈ fs, Whole d f) (hg : Worded d g) :
    Lexeme.tuples 0 ((parenthesised (joined "), (" fs) ++ g).lexemes d) = max 1 fs.length := by
  have hw : ∀ l ∈ Lexis.vendors, l.words "(" = [⟨.symbol, ['(']⟩] ∧ l.words ")" = [⟨.symbol, [')']⟩] := by
    decide
  obtain ⟨hopening, hclosing⟩ := hw _ d.lexis_mem_vendors
  have hrest : Lexeme.tuples 1 ((words ")").lexemes d ++ g.lexemes d) = 0 := by
    rw [lexemes_words, hclosing]
    exact hg.tuples_eq
  calc Lexeme.tuples 0 ((words "(" ++ joined "), (" fs ++ words ")" ++ g).lexemes d)
    _ = Lexeme.tuples 1 ((joined "), (" fs).lexemes d ++ ((words ")").lexemes d ++ g.lexemes d)) + 1 := by
      rw [lexemes_append, lexemes_append, lexemes_append, lexemes_words, hopening, List.append_assoc, List.append_assoc]
      rfl
    _ = max 1 fs.length := by
      rw [tuples_joined h hrest]
      omega

end Fragment

theorem worded_renderReturning (cx : Context) (returning : List Column) :
    Yields (Worded cx.dialect) (renderReturning cx returning) := by
  unfold renderReturning
  split
  case isTrue => exact .ok (.inl rfl)
  case isFalse =>
    refine (Yields.trivial _).bind fun _ _ => ?_
    exact (Yields.trivial _).bind fun _ _ => .ok (.words _ (by decide) _)

namespace Insert

variable {cx : Context} {f : Fragment}

theorem worded_renderOnConflict (conflict : OnConflict) :
    Yields (Worded cx.dialect) (renderOnConflict cx conflict) := by
  have hon (f g : Fragment) : Worded cx.dialect (words " ON CONFLICT" ++ f ++ g) := by
    rw [List.append_assoc]
    exact .words _ (by decide) _
  unfold renderOnConflict
  dsimp only
  split
  case h_1 => exact .ok (hon _ _)
  case h_2 =>
    split
    case isTrue => exact .error _
    case isFalse => exact .ok (hon _ _)

theorem worded_renderOnDuplicateKey (table : TableId) (action : ConflictAction) :
    Yields (Worded cx.dialect) (renderOnDuplicateKey cx table action) := by
  unfold renderOnDuplicateKey
  cases action
  all_goals
    dsimp only
    split
    case isTrue => exact .error _
    case isFalse => exact .ok (.words _ (by decide) _)

theorem worded_renderConflict (table : TableId) (conflict : Option OnConflict) :
    Yields (Worded cx.dialect) (renderConflict cx table conflict) := by
  cases conflict
  case none => exact .ok (.inl rfl)
  case some conflict =>
    refine (Yields.trivial _).bind fun _ _ => ?_
    split
    case h_1 => exact worded_renderOnConflict conflict
    case h_2 => exact worded_renderOnDuplicateKey table conflict.action
    case h_3 => exact .error _

-- The text of an insert up to its rows.
def heading (cx : Context) (i : Insert) : Fragment :=
  words "INSERT INTO " ++ name (cx.catalog.tableName i.table) ++
    (words " " ++ columnList cx i.columns ++ words " VALUES ")

-- The rows that a reader finds in the text.
theorem tuples_of_render {i : Insert} (hcx : cx.dialect ∈ Dialect.builtins) (h : i.render cx = .ok f)
    (hcolumns : i.columns ≠ []) :
    ∃ rest, f.lexemes cx.dialect = (i.heading cx).lexemes cx.dialect ++ rest ∧
      Lexeme.tuples 0 rest = max 1 i.rows.length := by
  rw [render, Result.bind_eq_ok] at h
  obtain ⟨values, hvalues, h⟩ := h
  obtain ⟨conflict, hconflict, h⟩ := Result.bind_eq_ok.mp h
  obtain ⟨returned, hreturned, ⟨⟩⟩ := Result.bind_eq_ok.mp h
  obtain ⟨fs, hfs, rfl⟩ := renderValues_eq_ok hvalues hcolumns
  have hwhole := Yields.mapM (whole_renderRow hcx i.columns) i.rows fs hfs
  have hrest := (worded_renderConflict _ _ conflict hconflict).append (worded_renderReturning _ _ returned hreturned)
  refine ⟨Fragment.lexemes cx.dialect (parenthesised (joined "), (" fs) ++ (conflict ++ returned)), ?_, ?_⟩
  case refine_1 => simp [heading]
  case refine_2 => rw [tuples_rows hwhole hrest, (Result.mapM_eq_ok.mp hfs).length_eq]

-- Without columns the dialect's words for the default values stand in the place of the rows.
theorem defaults_of_render {i : Insert} (h : i.render cx = .ok f) (hcolumns : i.columns = []) :
    i.rows.length ≤ 1 ∧ ∃ tail ∈ cx.dialect.defaultValues, ∃ rest,
      f = words "INSERT INTO " ++ name (cx.catalog.tableName i.table) ++ words tail ++ rest := by
  rw [render, Result.bind_eq_ok] at h
  obtain ⟨values, hvalues, h⟩ := h
  obtain ⟨conflict, -, h⟩ := Result.bind_eq_ok.mp h
  obtain ⟨returned, -, ⟨⟩⟩ := Result.bind_eq_ok.mp h
  rw [renderValues, hcolumns, if_pos List.isEmpty_nil] at hvalues
  split at hvalues
  case h_1 tail htail =>
    dsimp only at hvalues
    split at hvalues
    case isTrue => cases hvalues
    case isFalse hrows =>
      cases hvalues
      exact ⟨Nat.le_of_not_lt hrows, tail, htail, conflict ++ returned, List.append_assoc ..⟩
  case h_2 =>
    dsimp only at hvalues
    split at hvalues <;> cases hvalues

end Insert

namespace Statement

variable {cx : Context} {s : Statement} {f : Fragment}

theorem exists_renders {command : Command} (hs : s.isBuilt = true) (h : s.compile cx = .ok command) :
    ∃ f, Renders cx s f ∧ command = ⟨f.text cx.dialect 0, f.params⟩ := by
  cases s
  case raw | schema => nomatch hs
  all_goals
    obtain ⟨f, hf, h⟩ := Result.bind_eq_ok.mp h
    refine ⟨f, ?_, (Context.of_command h).1⟩
  case select => exact .select hf
  case insert => exact .insert hf
  case update => exact .update hf
  case delete => exact .delete hf

-- The empty lists of a text are those of the statement that has been written.
theorem Renders.gaps_eq (hd : cx.dialect.Simple) (h : Renders cx s f) :
    Cue.gaps (f.cues cx.dialect) = s.ownGaps cx.dialect ++ s.hollows.map Hollow.opener := by
  cases h
  case select s h => exact (s.heads_render cx hd f h none).gaps_eq
  case insert i h => exact (i.finds_render hd f h).gaps_eq
  case update u h => exact (u.heads_render hd f h none).gaps_eq
  case delete s h => exact (s.heads_render hd f h none).gaps_eq

-- In the text of a compiled statement these lists are empty and no others: a grouping or an order by nothing, a call
-- without the arguments that it needs, the rows of an insert that has none, and a row without values. For an insert
-- with columns a reader finds a row for each of its rows, but one where it has none. Without columns the dialect's
-- words for default values stand there, whether there is a row or not.
theorem gaps_of_compile {command : Command} (hd : cx.dialect.Simple) (hs : s.isBuilt = true)
    (h : s.compile cx = .ok command) :
    ∃ f, Renders cx s f ∧ command = ⟨f.text cx.dialect 0, f.params⟩ ∧
      Cue.gaps (f.cues cx.dialect) = s.ownGaps cx.dialect ++ s.hollows.map Hollow.opener ∧
      (cx.dialect ∈ Dialect.builtins →
        cx.dialect.read 0 command.sql command.params = some (f.lexemes cx.dialect)) ∧
      ∀ i, s = .insert i →
        (i.columns = [] → i.rows.length ≤ 1 ∧ ∃ tail ∈ cx.dialect.defaultValues, ∃ rest,
          f = words "INSERT INTO " ++ name (cx.catalog.tableName i.table) ++ words tail ++ rest) ∧
        (i.columns ≠ [] → cx.dialect ∈ Dialect.builtins → ∃ rest,
          f.lexemes cx.dialect = (i.heading cx).lexemes cx.dialect ++ rest ∧
          Lexeme.tuples 0 rest = max 1 i.rows.length) := by
  obtain ⟨f, hf, rfl⟩ := exists_renders hs h
  refine ⟨f, hf, rfl, hf.gaps_eq hd, fun hd => Fragment.read_text hd (hf.whole hd) 0, ?_⟩
  rintro i rfl
  obtain ⟨⟩ | hi := hf
  exact ⟨Insert.defaults_of_render hi, fun hcolumns hd => Insert.tuples_of_render hd hi hcolumns⟩

theorem gaps_of_two_rows :
    let people : TableDef := ⟨"people", [⟨"id", .int .bits32, false, true, false, none⟩,
      ⟨"name", .string (some 100), false, false, false, none⟩], [0], [], []⟩
    let i : Insert :=
      ⟨0, [⟨0, 1⟩], [[.param (.text "Ann")], [.param (.text "Bob")]], [.physical ⟨0, 0⟩ none], none⟩
    let cx : Context := .new ⟨[people]⟩ .postgres none
    (insert i).isBuilt = true ∧ ∃ command, (insert i).compile cx = .ok command ∧
      command.sql = "INSERT INTO people (name) VALUES ($1), ($2) RETURNING id" ∧
      ∃ f : Fragment, command.sql = f.text .postgres 0 ∧ Cue.gaps (f.cues .postgres) = [] ∧
        ∃ rest, f.lexemes .postgres = (i.heading cx).lexemes .postgres ++ rest ∧ Lexeme.tuples 0 rest = 2 := by
  intro people i cx
  have htext : ((insert i).compile cx).toOption.map (·.sql) =
      some "INSERT INTO people (name) VALUES ($1), ($2) RETURNING id" := by
    decide +kernel
  obtain ⟨command, hcommand, htext⟩ := Result.map_toOption_eq_some.mp htext
  have hmem : Dialect.postgres ∈ Dialect.builtins := by simp [Dialect.builtins]
  have hsimple : cx.dialect.Simple := Dialect.simple_of_mem_builtins hmem
  obtain ⟨f, -, rfl, hgaps, -, hrows⟩ := gaps_of_compile hsimple rfl hcommand
  exact ⟨rfl, _, hcommand, htext, f, rfl, hgaps, (hrows i rfl).2 (List.cons_ne_nil _ _) hmem⟩

-- These statements compile, with nothing in one of their lists. The last has no row and inserts one.
theorem compiled_without_items :
    let people : TableDef := ⟨"people", [⟨"id", .int .bits32, false, true, false, none⟩,
      ⟨"name", .string (some 100), false, false, false, none⟩], [0], [], []⟩
    let cx : Context := .new ⟨[people]⟩ .postgres none
    let read (s : Statement) : Option (String × List Opener) :=
      (s.compile cx).toOption.map fun command => (command.sql, Cue.gaps (cx.dialect.lexis.cues command.sql))
    let s : Select := .allColumns cx.catalog 0
    let coalesced : Column := .function ⟨.coalesce, [], false, none⟩
    read (select { s with orderBy := some [] }) =
      some ("SELECT people.id, people.name FROM people ORDER BY ", [.by]) ∧
    read (select { s with groupBy := some [] }) =
      some ("SELECT people.id, people.name FROM people GROUP BY ", [.by]) ∧
    read (select { s with columns := [coalesced] }) = some ("SELECT COALESCE() FROM people", [.parenthesis]) ∧
    read (insert ⟨0, [⟨0, 1⟩], [], [], none⟩) = some ("INSERT INTO people (name) VALUES ()", [.parenthesis]) ∧
    read (insert ⟨0, [], [], [], none⟩) = some ("INSERT INTO people DEFAULT VALUES", []) := by
  decide +kernel

end Statement

end PolySql
