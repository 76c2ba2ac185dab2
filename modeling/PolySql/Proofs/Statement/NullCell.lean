import PolySql.Proofs.Column.Stored
import PolySql.Proofs.Sql.Constant
import PolySql.Proofs.Sql.Rendering
import PolySql.Proofs.Statement.Assignment

namespace PolySql

open Fragment

-- A text with a sign in it that `NULL` has not.
def Text.UnlikeNull (s : List Char) : Prop :=
  ∃ c ∈ s, c ∉ "NULL".toList

namespace Text.UnlikeNull

variable {s : List Char}

theorem append_left (h : UnlikeNull s) (t : List Char) : UnlikeNull (s ++ t) := by
  obtain ⟨c, hc, hn⟩ := h
  exact ⟨c, List.mem_append_left t hc, hn⟩

theorem append_right (h : UnlikeNull s) (t : List Char) : UnlikeNull (t ++ s) := by
  obtain ⟨c, hc, hn⟩ := h
  exact ⟨c, List.mem_append_right t hc, hn⟩

theorem ne_null {w : String} (h : UnlikeNull w.toList) : w ≠ "NULL" := by
  rintro rfl
  obtain ⟨c, hc, hn⟩ := h
  exact hn hc

theorem of_numeral (h : Numeral s) : UnlikeNull s := by
  obtain ⟨c, r, b, rfl, hc, -⟩ := h
  have hno : "NULL".toList.all (!·.isDigit) = true := by decide
  exact ⟨c, .head _, fun hn => by simpa [hc] using List.all_eq_true.mp hno c hn⟩

theorem of_quoted (s : List Char) : UnlikeNull (Dialect.quoted s).toList :=
  ⟨singleQuote, by simp [Dialect.quoted, singleQuoted, enclosed], by decide⟩

theorem of_temporal (d : Dialect) (keyword : String) (s : List Char) :
    UnlikeNull (d.temporalLiteral keyword s).toList := by
  rw [Dialect.temporalLiteral]
  split
  case isTrue =>
    rw [String.toList_append]
    exact (of_quoted s).append_right _
  case isFalse => exact of_quoted s

theorem of_float (x : Float) : UnlikeNull (FloatText.render x) := by
  rw [FloatText.render]
  split
  case h_1 => exact ⟨'a', by decide, by decide⟩
  case h_2 | h_3 => exact ⟨'i', by decide, by decide⟩
  case h_4 m e _ => exact (of_numeral (FloatText.numeral_magnitude m e)).append_right ['-']
  case h_5 m e _ => exact of_numeral (FloatText.numeral_magnitude m e)

theorem of_int (i : Int) : UnlikeNull (ofInt i) := by
  have hdigits := of_numeral (numeral_ofNat i.natAbs)
  rw [ofInt]
  split
  case isTrue => exact hdigits.append_right ['-']
  case isFalse => exact hdigits

theorem of_decimal (x : Decimal) : UnlikeNull x.text := by
  obtain ⟨a, ha, hx⟩ := x.exists_numeral
  rw [hx]
  exact (of_numeral ha).append_right _

theorem of_boolean (d : Dialect) (b : Bool) : UnlikeNull (d.booleanLiteral b).toList := by
  unfold Dialect.booleanLiteral
  split
  case h_1 => exact ⟨'T', by decide, by decide⟩
  case h_2 => exact ⟨'F', by decide, by decide⟩
  case h_3 => exact ⟨'1', by decide, by decide⟩
  case h_4 => exact ⟨'0', by decide, by decide⟩

theorem of_placeholder (p : Placeholder) (n : Nat) : UnlikeNull (p.text n).toList := by
  cases p
  case positional =>
    have hmark : '?' ∈ "?".toList := by decide
    exact ⟨'?', hmark, by decide⟩
  case numbered mark =>
    rw [Placeholder.text, String.toList_append, String.toList_ofList]
    exact (of_numeral (numeral_ofNat n)).append_right _

end Text.UnlikeNull

-- A dialect that writes neither bytes nor the current time as `NULL`.
structure Dialect.SparesNull (d : Dialect) : Prop where
  bytes : ∀ b, d.bytesLiteral b ≠ "NULL"
  now : d.functionName .currentTimestamp ≠ "NULL"

theorem Dialect.sparesNull_of_mem_builtins {d : Dialect} (hd : d ∈ builtins) : d.SparesNull where
  bytes b := by
    refine Text.UnlikeNull.ne_null ?_
    rw [bytesLiteral, String.toList_append, String.toList_append]
    have hmarks : Text.UnlikeNull d.bytesMarks.opening.toList := by
      have hsign : ∀ d ∈ builtins, d.bytesMarks.opening.toList.any (· ∉ "NULL".toList) = true := by decide
      simpa [Text.UnlikeNull] using List.any_eq_true.mp (hsign d hd)
    exact (hmarks.append_left _).append_left _
  now := by
    have hnow : ∀ d ∈ builtins, d.functionName .currentTimestamp ≠ "NULL" := by decide
    exact hnow d hd

theorem Dialect.SparesNull.literal_eq {d : Dialect} (hd : d.SparesNull) {v : Value} (h : d.literal v = "NULL") :
    v = .null := by
  by_contra hv
  refine absurd h ?_
  cases v
  case null => exact absurd rfl hv
  case bytes b => exact hd.bytes b
  all_goals refine Text.UnlikeNull.ne_null ?_
  case bool b => exact .of_boolean d b
  case int i => exact String.toList_ofList ▸ .of_int _
  case float x => exact String.toList_ofList ▸ .of_float x
  case decimal x => exact String.toList_ofList ▸ .of_decimal x
  case text s =>
    rw [literal, stringLiteral, String.toList_append]
    exact (Text.UnlikeNull.of_quoted _).append_right _
  case uuid u => exact .of_quoted _
  case date | time | timestamp | timestampTz => exact .of_temporal d _ _

-- `NULL` in the text of a statement, or as a parameter of it.
def Fragment.IsNull (d : Dialect) (f : Fragment) : Prop :=
  (∃ n, f.text d n = "NULL") ∨ f = [.param .null]

section

variable {d : Dialect} {f : Fragment} {p : Piece}

theorem Fragment.exists_text_of_mem (hp : p ∈ f) (d : Dialect) (n : Nat) :
    ∃ a m b, f.text d n = a ++ p.text d m ++ b := by
  induction f generalizing n
  case nil => cases hp
  case cons q f ih =>
    rw [text, texts, String.join_cons, ← text]
    rcases List.mem_cons.mp hp with rfl | hp
    case inl => exact ⟨"", n, _, by rw [String.empty_append]⟩
    case inr =>
      obtain ⟨a, m, b, h⟩ := ih hp (n + q.param?.toList.length)
      exact ⟨q.text d n ++ a, m, b, by rw [h, String.append_assoc, String.append_assoc, String.append_assoc]⟩

theorem Fragment.not_isNull_of_mem (hp : p ∈ f) (h : ∀ m, Text.UnlikeNull (p.text d m).toList)
    (hf : f ≠ [.param .null]) : ¬f.IsNull d := by
  rintro (⟨n, hn⟩ | hn)
  case inr => exact hf hn
  case inl =>
    obtain ⟨a, m, b, htext⟩ := exists_text_of_mem hp d n
    refine Text.UnlikeNull.ne_null ?_ hn
    rw [htext, String.toList_append, String.toList_append]
    exact ((h m).append_right _).append_left _

theorem Fragment.not_isNull_of_words {w : String} (hp : .words w ∈ f) (h : Text.UnlikeNull w.toList) : ¬f.IsNull d := by
  refine not_isNull_of_mem hp (fun _ => h) ?_
  rintro rfl
  simp at hp

end

-- A call is written with parentheses, apart from that for the current time.
theorem Function.exists_words_call (cx : Context) (kind : FunctionKind) (distinct : Bool) (args : List Fragment) :
    (∃ w, .words w ∈ call cx kind distinct args ∧ '(' ∈ w.toList) ∨
      call cx kind distinct args = words (cx.dialect.functionName .currentTimestamp) := by
  have happlied (name : Fragment) : ∃ w, .words w ∈ call.applied distinct args name ∧ '(' ∈ w.toList :=
    ⟨"(", by simp [applied_eq, parenthesised], by decide⟩
  fun_cases call
  case case1 => exact .inr rfl
  case case2 => exact .inl ⟨"(", by simp [parenthesised], by decide⟩
  case case4 => exact .inl ⟨"(*)", by simp [words], by decide⟩
  all_goals exact .inl (happlied _)

theorem Function.exists_words {cx : Context} {f : Function} {g : Fragment} (h : f.render cx = .ok g) :
    (∃ w, .words w ∈ g ∧ '(' ∈ w.toList) ∨ g = words (cx.dialect.functionName .currentTimestamp) := by
  obtain ⟨kind, args, distinct, window⟩ := f
  rw [render_eq, Result.bind_eq_ok] at h
  obtain ⟨call, hcall, h⟩ := h
  obtain ⟨fs, -, ⟨⟩⟩ := Result.bind_eq_ok.mp hcall
  cases window
  case none =>
    rw [windowed] at h
    split at h
    case isTrue => nomatch h
    case isFalse =>
      cases h
      exact exists_words_call cx kind distinct fs
  case some window =>
    rw [windowed, Result.bind_eq_ok] at h
    obtain ⟨_, -, h⟩ := h
    obtain ⟨w, -, ⟨⟩⟩ := Result.bind_eq_ok.mp h
    exact .inl ⟨" OVER (", by simp [words], by decide⟩

theorem Fragment.text_singleton (d : Dialect) (p : Piece) (n : Nat) : text d n [p] = p.text d n := by
  rw [text, texts, texts, String.join_cons, String.join_nil, String.append_empty]

section

variable {cx : Context} {hint : Option ColumnType} {value : Column} {g : Fragment}

-- Of the values that pass the checks, only a constant in the text is written `NULL`. No parameter is.
structure Column.Shows (cx : Context) (value : Column) (g : Fragment) : Prop where
  bound : g ≠ [.param .null]
  written : value = .literal .null → g.IsNull cx.dialect
  spared : cx.dialect.SparesNull → g.IsNull cx.dialect → value = .literal .null

theorem Column.Shows.of_not_isNull (hvalue : value ≠ .literal .null) (hg : ¬g.IsNull cx.dialect) : value.Shows cx g :=
  ⟨fun h => hg (.inr h), fun h => absurd h hvalue, fun _ h => absurd h hg⟩

theorem Column.shows_null (h : (Column.literal .null).render cx hint = .ok g) : (Column.literal .null).Shows cx g := by
  obtain ⟨x, hx, ⟨⟩⟩ := Result.bind_eq_ok.mp (render.eq_3 cx hint .null ▸ h)
  cases hx.symm.trans (Context.stored_null cx hint)
  exact ⟨by simp, fun _ => .inl ⟨0, text_singleton cx.dialect _ 0⟩, fun _ _ => rfl⟩

theorem Column.shows_render (hq : cx.qualified = true) (hv : value.isNullConstant = false)
    (h : value.render cx hint = .ok g) : value.Shows cx g := by
  by_cases hvalue : value = .literal .null
  case pos =>
    subst hvalue
    exact shows_null h
  case neg =>
    cases value
    case physical id aliasName =>
      rw [render, Context.columnName, if_pos hq] at h
      cases h
      exact .of_not_isNull hvalue (not_isNull_of_words (w := ".") (by simp) ⟨'.', by decide, by decide⟩)
    case param v =>
      obtain ⟨x, hx, ⟨⟩⟩ := Result.bind_eq_ok.mp (render.eq_2 cx hint v ▸ h)
      have hne : x ≠ .null := by
        rintro rfl
        rw [Context.stored_eq_null hx] at hv
        cases hv
      refine .of_not_isNull hvalue (not_isNull_of_mem (.head _) (fun _ => .of_placeholder _ _) ?_)
      rintro ⟨⟩
      exact hne rfl
    case literal v =>
      obtain ⟨x, hx, ⟨⟩⟩ := Result.bind_eq_ok.mp (render.eq_3 cx hint v ▸ h)
      refine ⟨by simp, fun h => absurd h hvalue, fun hspares hnull => ?_⟩
      rcases hnull with ⟨n, hn⟩ | hn
      case inr => cases hn
      case inl =>
        obtain rfl : x = .null := hspares.literal_eq ((text_singleton cx.dialect _ n).symm.trans hn)
        rw [Context.stored_eq_null hx]
    case subSelect s =>
      rw [render, Result.bind_eq_ok] at h
      obtain ⟨f, -, ⟨⟩⟩ := h
      exact .of_not_isNull hvalue (not_isNull_of_words (w := "(") (by simp [parenthesised]) ⟨'(', by decide, by decide⟩)
    case star table =>
      refine .of_not_isNull hvalue (not_isNull_of_words (w := "*") ?_ ⟨'*', by decide, by decide⟩)
      cases table <;> cases h <;> simp [words]
    case null => cases hv
    case function f =>
      rw [render] at h
      rcases Function.exists_words h with ⟨w, hw, hc⟩ | hnow
      case inl => exact .of_not_isNull hvalue (not_isNull_of_words hw ⟨'(', hc, by decide⟩)
      case inr =>
        subst hnow
        refine ⟨by simp [words], fun h => absurd h hvalue, fun hspares hnull => ?_⟩
        rcases hnull with ⟨n, hn⟩ | hn
        case inr => cases hn
        case inl => exact absurd ((text_singleton cx.dialect _ n).symm.trans hn) hspares.now

end

-- What is written for a value in a column of the catalog.
structure Catalog.Writes (cx : Context) (x : ColumnId × Column) (g : Fragment) : Prop where
  render_eq : x.2.render cx (cx.catalog.columnType? x.1) = .ok g
  shows : cx.catalog.isNullable x.1 = false → x.2.Shows cx g

theorem Cells.Render.writes {cx : Context} (hq : cx.qualified = true) {entries : List (ColumnId × Column)}
    {cells : List Fragment} (h : Cells.Render cx entries cells)
    (hchecked : ∀ x ∈ entries, x.2.isNullConstant = true → cx.catalog.isNullable x.1 = true) :
    List.Forall₂ (Catalog.Writes cx) entries cells := by
  induction h
  case nil => exact .nil
  case cons hcell _ ih =>
    rw [List.forall_mem_cons] at hchecked
    refine .cons ⟨hcell, fun hnullable => Column.shows_render hq ?_ hcell⟩ (ih hchecked.2)
    exact Bool.not_eq_true _ ▸ fun hnull => nomatch hnullable.symm.trans (hchecked.1 hnull)

-- A write that compiles has a cell for each value, in its place. In a column that is not nullable no cell is a `NULL`
-- parameter, and `NULL` is written in the text exactly for the constant that is put there as such.
theorem Statement.cells_of_write (c : Catalog) (d : Dialect) (version : Option Version) :
    let cx : Context := .new c d version
    (d ∈ Dialect.builtins → d.SparesNull) ∧
    (∀ (i : Insert) (command : Command), i.Built c → (Statement.insert i).compile cx = .ok command →
      i.columns = [] ∨ ∃ cells tail,
        command.sql = (Insert.inserting cx i.table i.columns cells tail).text d 0 ∧
        command.params = (Insert.inserting cx i.table i.columns cells tail).params ∧
        List.Forall₂ (fun row fs => row.length = i.columns.length ∧
          List.Forall₂ (Catalog.Writes cx) (i.columns.zip row) fs) i.rows cells) ∧
    (∀ (u : Update) (command : Command), (Statement.update u).compile cx = .ok command →
      ∃ head cells tail,
        command.sql = (Update.updating cx head u.table (u.values.map (·.1)) cells tail).text d 0 ∧
        command.params = (Update.updating cx head u.table (u.values.map (·.1)) cells tail).params ∧
        List.Forall₂ (Catalog.Writes cx) u.values cells) := by
  intro cx
  refine ⟨Dialect.sparesNull_of_mem_builtins, fun i command hb h => ?_, fun u command h => ?_⟩
  case refine_1 =>
    obtain ⟨f, hf, h⟩ := Result.bind_eq_ok.mp h
    obtain ⟨rfl, -⟩ := Context.of_command h
    rw [or_iff_not_imp_left]
    intro hcolumns
    obtain ⟨cells, tail, hcells, rfl⟩ := Insert.cells_of_render hf hcolumns
    refine ⟨cells, tail, rfl, rfl, (List.forall₂_and_left _ _).mpr ⟨hb.checked, hcells⟩ |>.imp ?_⟩
    exact fun row fs hrow => ⟨hrow.1.1, hrow.2.writes rfl hrow.1.2⟩
  case refine_2 =>
    obtain ⟨f, hf, h⟩ := Result.bind_eq_ok.mp h
    obtain ⟨rfl, -⟩ := Context.of_command h
    obtain ⟨hchecked, head, cells, tail, hcells, rfl⟩ := Update.render_eq_ok hf
    exact ⟨head, cells, tail, rfl, rfl, hcells.writes rfl hchecked⟩

-- The name is not nullable, and what is written for it is not `NULL`, in either row and in the update.
theorem Statement.cells_of_two_rows :
    let c : Catalog := ⟨[⟨"people", [⟨"id", .int .bits32, false, true, false, none⟩,
      ⟨"name", .string (some 100), false, false, false, none⟩,
      ⟨"age", .int .bits16, true, false, false, none⟩], [0], [], []⟩]⟩
    let cx : Context := .new c .postgres none
    let columns : List ColumnId := [⟨0, 1⟩, ⟨0, 2⟩]
    let rows : List (List Column) := [[.param (.text "Ann"), .null], [.literal (.text "Bob"), .param (.int 31)]]
    let i : Insert := ⟨0, columns, rows, [], none⟩
    let u : Update := .new 0 [(⟨0, 1⟩, .param (.text "Cid")), (⟨0, 2⟩, .literal .null)]
    (∃ command first second third fourth tail, (Insert.multi c 0 columns rows .none).1 = .ok i ∧
      (Statement.insert i).compile cx = .ok command ∧
      command.sql = "INSERT INTO people (name, age) VALUES ($1, NULL), ('Bob', $2)" ∧
      command.sql = (Insert.inserting cx 0 columns [[first, second], [third, fourth]] tail).text .postgres 0 ∧
      ¬first.IsNull .postgres ∧ ¬third.IsNull .postgres) ∧
    ∃ command head name age tail, (Statement.update u).compile cx = .ok command ∧
      command.sql = "UPDATE people SET name = $1, age = NULL" ∧
      command.sql = (Update.updating cx head 0 columns [name, age] tail).text .postgres 0 ∧
      ¬name.IsNull .postgres := by
  intro c cx columns rows i u
  obtain ⟨hspares, hinsert, hupdate⟩ := cells_of_write c .postgres none
  have hspares : Dialect.postgres.SparesNull := hspares (by simp [Dialect.builtins])
  have hname {value : Column} {g : Fragment} (h : Catalog.Writes cx (⟨0, 1⟩, value) g)
      (hvalue : value ≠ .literal .null) : ¬g.IsNull .postgres :=
    fun hnull => hvalue ((h.shows rfl).spared hspares hnull)
  constructor
  case left =>
    have hmulti : (Insert.multi c 0 columns rows .none).1 = .ok i := rfl
    have hsql : ((Statement.insert i).compile cx).toOption.map (·.sql) =
        some "INSERT INTO people (name, age) VALUES ($1, NULL), ('Bob', $2)" := by
      decide +kernel
    obtain ⟨command, hcommand, hsql⟩ := Result.map_toOption_eq_some.mp hsql
    obtain ⟨⟨⟩⟩ | ⟨cells, tail, htext, -, hcells⟩ := hinsert i command (.multi 0 columns rows hmulti) hcommand
    obtain _ | ⟨⟨-, _ | ⟨hfirst, _ | ⟨-, ⟨⟩⟩⟩⟩, _ | ⟨⟨-, _ | ⟨hthird, _ | ⟨-, ⟨⟩⟩⟩⟩, ⟨⟩⟩⟩ := hcells
    exact ⟨command, _, _, _, _, tail, hmulti, hcommand, hsql, htext, hname hfirst (by simp), hname hthird (by simp)⟩
  case right =>
    have hsql : ((Statement.update u).compile cx).toOption.map (·.sql) =
        some "UPDATE people SET name = $1, age = NULL" := by
      decide +kernel
    obtain ⟨command, hcommand, hsql⟩ := Result.map_toOption_eq_some.mp hsql
    obtain ⟨head, cells, tail, htext, -, hcells⟩ := hupdate u command hcommand
    obtain _ | ⟨hfirst, _ | ⟨-, ⟨⟩⟩⟩ := hcells
    exact ⟨command, head, _, _, tail, hcommand, hsql, htext, hname hfirst (by simp)⟩

-- The constant passes for a column that is not nullable, and the text says `NULL`.
theorem Statement.null_written_for_constant :
    let c : Catalog := ⟨[⟨"people", [⟨"id", .int .bits32, false, true, false, none⟩,
      ⟨"name", .string (some 100), false, false, false, none⟩,
      ⟨"age", .int .bits16, true, false, false, none⟩], [0], [], []⟩]⟩
    let values : List (ColumnId × Column) := [(⟨0, 1⟩, .literal .null)]
    c.isNullable ⟨0, 1⟩ = false ∧
    ((Insert.new c 0 values .none).1 >>= fun i =>
      (Statement.insert i).compile (.new c .postgres none)).toOption.map (·.sql) =
      some "INSERT INTO people (name) VALUES (NULL)" ∧
    ((Statement.update (.new 0 values)).compile (.new c .postgres none)).toOption.map (·.sql) =
      some "UPDATE people SET name = NULL" := by
  decide +kernel

end PolySql
