import PolySql.Proofs.Sql.Conditions
import PolySql.Proofs.Sql.Literal
import PolySql.Proofs.Sql.Params
import PolySql.Proofs.Text.Wildcards
import PolySql.Query.TypedColumn

namespace PolySql

open Fragment

-- The string that a lexeme stands for, if it is a constant or a value.
def Lexeme.string? (d : Dialect) : Lexeme → Option (List Char)
  | value (.text s) => some s.toList
  | token ⟨.text, cs⟩ => (d.readString? cs).bind fun (s, r) => if r.isEmpty then some s else none
  | _ => none

-- The string that an operand stands for, which may be a concatenation by the standard's function.
def Lexeme.strings? (d : Dialect) : List Lexeme → Option (List Char)
  | [l] => l.string? d
  | [.token ⟨.word, w⟩, opening, a, comma, b, closing] =>
    if Dialect.upperWord w = "CONCAT" ∧ opening.isSymbol '(' ∧ comma.isSymbol ',' ∧ closing.isSymbol ')' then do
      return (← a.string? d) ++ (← b.string? d)
    else none
  | _ => none

namespace Expr

def string? (d : Dialect) : Expr → Option (List Char)
  | operand ls => Lexeme.strings? d ls
  | concat a b => do return (← a.string? d) ++ (← b.string? d)
  | _ => none

-- Does the condition, which is on the pattern of a column, hold where the column has the given value?
def Finds (d : Dialect) (column : List Lexeme) (v : String) : Expr → Prop
  | like true (operand ls) pattern =>
    ls = column ∧ ∃ p, pattern.string? d = some p ∧ Text.like p v.toList = true
  | _ => False

end Expr

theorem Fragment.lexemes_words_of {d : Dialect} (hd : d ∈ Dialect.builtins)
    (hw : ∀ l ∈ Lexis.vendors, l.words w = ts) : (words w).lexemes d = ts.map .token := by
  rw [lexemes_words, hw _ (Dialect.lexis_mem hd)]

theorem Lexeme.strings?_concat (d : Dialect) (a b : Lexeme) :
    strings? d [.token ⟨.word, "CONCAT".toList⟩, symbol '(', a, symbol ',', b, symbol ')'] = do
      return (← a.string? d) ++ (← b.string? d) := by
  have hname : Dialect.upperWord "CONCAT".toList = "CONCAT" := by decide
  rw [strings?, if_pos ⟨hname, rfl, rfl, rfl⟩]

section

variable {d : Dialect} (hd : d ∈ Dialect.builtins) (c : Catalog) (version : Option Version) (s : String)

include hd

theorem Lexeme.string?_percent : (Lexeme.token ⟨.text, "'%'".toList⟩).string? d = some ['%'] := by
  have hread : ∀ d ∈ Dialect.builtins, d.readString? "'%'".toList = some (['%'], []) := by decide
  rw [string?, hread d hd]
  rfl

namespace Context

omit s in
theorem operand_percent : (new c d version).operand (words "'%'") = .operand [.token ⟨.text, "'%'".toList⟩] := by
  have hw : ∀ l ∈ Lexis.vendors, l.words "'%'" = [⟨.text, "'%'".toList⟩] := by decide
  exact congrArg Expr.operand (lexemes_words_of hd hw)

-- The pattern of a text with a wildcard after it.
theorem string?_suffixed :
    ((new c d version).suffixed [.param (.text s)] ((new c d version).operand [.param (.text s)])).string? d =
      some (s.toList ++ ['%']) := by
  have hpercent := Lexeme.string?_percent hd
  rw [suffixed]
  cases hstyle : (new c d version).dialect.concatStyle
  case operator =>
    dsimp only
    rw [operand_percent hd, Expr.string?, Expr.string?, Lexeme.strings?, hpercent]
    rfl
  case function =>
    have hopening : ∀ l ∈ Lexis.vendors, l.words "CONCAT(" = [⟨.word, "CONCAT".toList⟩, ⟨.symbol, ['(']⟩] := by decide
    have hclosing : ∀ l ∈ Lexis.vendors,
        l.words ", '%')" = [⟨.symbol, [',']⟩, ⟨.text, "'%'".toList⟩, ⟨.symbol, [')']⟩] := by
      decide
    have hlexemes : ((new c d version).withSuffix [.param (.text s)]).lexemes d = [.token ⟨.word, "CONCAT".toList⟩,
        .symbol '(', .value (.text s), .symbol ',', .token ⟨.text, "'%'".toList⟩, .symbol ')'] := by
      rw [withSuffix, hstyle]
      simp only [lexemes_append, lexemes_words_of hd hopening, lexemes_words_of hd hclosing]
      rfl
    have hstring : Lexeme.strings? d (((new c d version).withSuffix [.param (.text s)]).lexemes d) =
        some (s.toList ++ ['%']) := by
      rw [hlexemes, Lexeme.strings?_concat, hpercent]
      rfl
    exact hstring

theorem string?_prefixed :
    ((new c d version).prefixed [.param (.text s)] ((new c d version).operand [.param (.text s)])).string? d =
      some ('%' :: s.toList) := by
  have hpercent := Lexeme.string?_percent hd
  rw [prefixed]
  cases hstyle : (new c d version).dialect.concatStyle
  case operator =>
    dsimp only
    rw [operand_percent hd, Expr.string?, Expr.string?, Lexeme.strings?, hpercent]
    rfl
  case function =>
    have hopening : ∀ l ∈ Lexis.vendors, l.words "CONCAT('%', " =
        [⟨.word, "CONCAT".toList⟩, ⟨.symbol, ['(']⟩, ⟨.text, "'%'".toList⟩, ⟨.symbol, [',']⟩] := by
      decide
    have hclosing : ∀ l ∈ Lexis.vendors, l.words ")" = [⟨.symbol, [')']⟩] := by decide
    have hlexemes : ((new c d version).withStart [.param (.text s)]).lexemes d = [.token ⟨.word, "CONCAT".toList⟩,
        .symbol '(', .token ⟨.text, "'%'".toList⟩, .symbol ',', .value (.text s), .symbol ')'] := by
      rw [withStart, hstyle]
      simp only [lexemes_append, lexemes_words_of hd hopening, lexemes_words_of hd hclosing]
      rfl
    have hstring : Lexeme.strings? d (((new c d version).withStart [.param (.text s)]).lexemes d) =
        some ('%' :: s.toList) := by
      rw [hlexemes, Lexeme.strings?_concat, hpercent]
      rfl
    exact hstring

end Context

end

theorem Predicate.readCondition_render {cx : Context} (hcx : cx.dialect ∈ Dialect.builtins) {p : Predicate}
    (hf : p.render cx = .ok f) (he : p.tree cx = .ok e) (n : Nat) :
    cx.dialect.readCondition n (f.text cx.dialect n) f.params = some e := by
  obtain ⟨e', he', hforms⟩ := p.forms_render cx hcx f hf
  cases he.symm.trans he'
  have hall : Expr.ofLexemes (f.lexemes cx.dialect) = some (e, []) := by
    simpa using hforms.ofLexemes_append (by omega) .nil
  simp [Dialect.readCondition, Fragment.read_text hcx (p.whole_render cx hcx f hf) n, hall]

@[simp]
theorem Context.params_withSuffix (cx : Context) (f : Fragment) : (cx.withSuffix f).params = f.params := by
  rw [withSuffix]
  split <;> simp

@[simp]
theorem Context.params_withStart (cx : Context) (f : Fragment) : (cx.withStart f).params = f.params := by
  rw [withStart]
  split <;> simp

namespace TypedColumn

-- The column as it is written.
def written (cx : Context) (column : TypedColumn) : Fragment :=
  cx.columnName (column.aliasName.getD (cx.catalog.tableName column.id.table)) (cx.catalog.columnName column.id)

-- The text of the condition, with its parameters, is read as one that holds where the column has the given value.
def Finds (c : Catalog) (d : Dialect) (version : Option Version) (column : TypedColumn) (p : Predicate) (v : String) :
    Prop :=
  ∃ f e, p.render (.new c d version) = .ok f ∧ d.readCondition 0 (f.text d 0) f.params = some e ∧
    e.Finds d ((column.written (.new c d version)).lexemes d) v

section

variable {d : Dialect} (hd : d ∈ Dialect.builtins) (c : Catalog) (version : Option Version) (column : TypedColumn)
  (s v : String)

theorem render_startsWith : (column.startsWith s).render (.new c d version) =
    .ok (column.written (.new c d version) ++ words " LIKE " ++ (Context.new c d version).withSuffix [.param (.text s)]) :=
  rfl

theorem render_endsWith : (column.endsWith s).render (.new c d version) =
    .ok (column.written (.new c d version) ++ words " LIKE " ++ (Context.new c d version).withStart [.param (.text s)]) :=
  rfl

include hd

-- What a condition finds can be told from its tree.
theorem finds_iff {p : Predicate} {e : Expr} {f : Fragment} (hf : p.render (.new c d version) = .ok f)
    (he : p.tree (.new c d version) = .ok e) :
    column.Finds c d version p v ↔ e.Finds d ((column.written (.new c d version)).lexemes d) v := by
  have hread : d.readCondition 0 (f.text d 0) f.params = some e := p.readCondition_render hd hf he 0
  constructor
  case mp =>
    rintro ⟨g, e', hg, he', h⟩
    cases hf.symm.trans hg
    cases hread.symm.trans he'
    exact h
  case mpr => exact fun h => ⟨f, e, hf, hread, h⟩

theorem finds_startsWith_iff :
    column.Finds c d version (column.startsWith s) v ↔ Text.like (s.toList ++ ['%']) v.toList = true := by
  have htree : (column.startsWith s).tree (.new c d version) =
      .ok (.like true (.operand ((column.written (.new c d version)).lexemes d))
        ((Context.new c d version).suffixed [.param (.text s)] ((Context.new c d version).operand [.param (.text s)]))) :=
    rfl
  rw [finds_iff hd c version column v (column.render_startsWith c version s) htree, Expr.Finds,
    Context.string?_suffixed hd]
  simp

theorem finds_endsWith_iff :
    column.Finds c d version (column.endsWith s) v ↔ Text.like ('%' :: s.toList) v.toList = true := by
  have htree : (column.endsWith s).tree (.new c d version) =
      .ok (.like true (.operand ((column.written (.new c d version)).lexemes d))
        ((Context.new c d version).prefixed [.param (.text s)] ((Context.new c d version).operand [.param (.text s)]))) :=
    rfl
  rw [finds_iff hd c version column v (column.render_endsWith c version s) htree, Expr.Finds,
    Context.string?_prefixed hd]
  simp

omit hd in
theorem forall_toList {p : List Char → Prop} : (∀ v : String, p v.toList) ↔ ∀ l, p l :=
  ⟨fun h l => String.toList_ofList (l := l) ▸ h (.ofList l), fun h v => h v.toList⟩

-- The text is taken for a pattern: no value that begins or ends with it is missed, and no other one is found exactly
-- if there are no wildcards in it.
theorem finds_affix_iff :
    (∃ f, (column.startsWith s).render (.new c d version) = .ok f ∧ f.params = [.text s]) ∧
    (∃ f, (column.endsWith s).render (.new c d version) = .ok f ∧ f.params = [.text s]) ∧
    (∀ v, column.Finds c d version (column.startsWith s) v ↔
      ∃ a b, v.toList = a ++ b ∧ Text.like s.toList a = true) ∧
    (∀ v, column.Finds c d version (column.endsWith s) v ↔
      ∃ a b, v.toList = a ++ b ∧ Text.like s.toList b = true) ∧
    (∀ v, s.toList <+: v.toList → column.Finds c d version (column.startsWith s) v) ∧
    (∀ v, s.toList <:+ v.toList → column.Finds c d version (column.endsWith s) v) ∧
    ((∀ v, column.Finds c d version (column.startsWith s) v ↔ s.toList <+: v.toList) ↔
      ∀ x ∈ s.toList, Text.isWildcard x = false) ∧
    ((∀ v, column.Finds c d version (column.endsWith s) v ↔ s.toList <:+ v.toList) ↔
      ∀ x ∈ s.toList, Text.isWildcard x = false) := by
  simp only [finds_startsWith_iff hd, finds_endsWith_iff hd]
  refine ⟨⟨_, column.render_startsWith c version s, ?_⟩, ⟨_, column.render_endsWith c version s, ?_⟩,
    fun v => Text.like_append_percent, fun v => Text.like_percent, fun v => Text.like_of_prefix,
    fun v => Text.like_of_suffix, ?_, ?_⟩
  · simp [written]
    rfl
  · simp [written]
    rfl
  · rw [← Text.like_iff_prefix]
    exact forall_toList (p := fun l => Text.like (s.toList ++ ['%']) l = true ↔ s.toList <+: l)
  · rw [← Text.like_iff_suffix]
    exact forall_toList (p := fun l => Text.like ('%' :: s.toList) l = true ↔ s.toList <:+ l)

end

theorem finds_affix_of_venue :
    let column : TypedColumn := ⟨⟨0, 0⟩, .string, some "v"⟩
    let c : Catalog := ⟨[⟨"venues", [⟨"name", .string (some 80), false, false, false, none⟩], [], [], []⟩]⟩
    Dialect.sqlServer ∈ Dialect.builtins ∧
      (∀ v, column.Finds c .sqlServer none (column.startsWith "Hall") v ↔ "Hall".toList <+: v.toList) ∧
      ¬∀ v, column.Finds c .sqlServer none (column.endsWith "100%") v ↔ "100%".toList <:+ v.toList := by
  intro column c
  have hd : Dialect.sqlServer ∈ Dialect.builtins := by simp [Dialect.builtins]
  obtain ⟨-, -, -, -, -, -, hplain, -⟩ := finds_affix_iff hd c none column "Hall"
  obtain ⟨-, -, -, -, -, -, -, hwild⟩ := finds_affix_iff hd c none column "100%"
  refine ⟨hd, hplain.mpr (by simp [Text.isWildcard]), fun h => ?_⟩
  exact absurd (hwild.mp h) (by simp [Text.isWildcard])

-- A value is found that does not begin with the text.
theorem startsWith_finds_other :
    let column : TypedColumn := ⟨⟨0, 0⟩, .string, none⟩
    let c : Catalog := ⟨[⟨"people", [⟨"name", .string none, false, false, false, none⟩], [], [], []⟩]⟩
    column.Finds c .postgres none (column.startsWith "50%") "5000 m" ∧ ¬"50%".toList <+: "5000 m".toList ∧
      column.Finds c .postgres none (column.endsWith "_b") "ab" ∧ ¬"_b".toList <:+ "ab".toList := by
  intro column c
  have hd : Dialect.postgres ∈ Dialect.builtins := by simp [Dialect.builtins]
  exact ⟨(finds_startsWith_iff hd c none column "50%" "5000 m").mpr (by decide), by decide,
    (finds_endsWith_iff hd c none column "_b" "ab").mpr (by decide), by decide⟩

end TypedColumn

end PolySql
