import PolySql.Proofs.Sql.Spelling
import PolySql.Proofs.Text.Calendar
import PolySql.Proofs.Text.Printed

namespace PolySql

-- The words that no operand begins with.
def Keywords.leading : List String :=
  ["AND", "BETWEEN", "EXISTS", "IN", "IS", "LIKE", "NOT", "OR", "SELECT", "WITH"]

-- The forms in which the vendors write constants.
inductive Constant : List Token → Prop
  | word : Dialect.upperWord w ∉ Keywords.leading → Constant [⟨.word, w⟩]
  | number (a : List Char) : Constant [⟨.number, a⟩]
  | negative (a : List Char) : Constant [⟨.operator, ['-']⟩, ⟨.number, a⟩]
  | negativeWord : Dialect.upperWord w ∉ Keywords.leading → Constant [⟨.operator, ['-']⟩, ⟨.word, w⟩]
  | text (a : List Char) : Constant [⟨.text, a⟩]
  | marked (a : List Char) : Dialect.upperWord w ∉ Keywords.leading → Constant [⟨.word, w⟩, ⟨.text, a⟩]
  | cast (a w : List Char) : Constant [⟨.text, a⟩, ⟨.operator, [':', ':']⟩, ⟨.word, w⟩]
  | zoned (a : List Char) :
    Constant [⟨.word, "TIMESTAMP".toList⟩, ⟨.word, "WITH".toList⟩, ⟨.word, "TIME".toList⟩,
      ⟨.word, "ZONE".toList⟩, ⟨.text, a⟩]
  | call (a : List Char) : Dialect.upperWord w ∉ Keywords.leading →
    Constant [⟨.word, w⟩, ⟨.symbol, ['(']⟩, ⟨.text, a⟩, ⟨.symbol, [')']⟩]

theorem Constant.kind_ne (h : Constant ts) : ∀ t ∈ ts, Token.kind t ≠ .placeholder := by
  cases h <;> simp

-- A number without a sign.
def Numeral (a : List Char) : Prop :=
  ∃ c r b, a = c :: r ∧ c.isDigit = true ∧ (Shape.number false).through r = some (.number b)

namespace Numeral

variable {a b : List Char}

theorem of_digits (h : ∀ c ∈ a, c.isDigit = true) (hn : a ≠ []) : Numeral a := by
  cases a
  case nil => exact absurd rfl hn
  case cons c r =>
    rw [List.forall_mem_cons] at h
    obtain ⟨b, hb⟩ := Shape.through_number (b := false) (Shape.isNumberChar_of_isDigit h.2)
    exact ⟨c, r, b, rfl, h.1, hb⟩

theorem append (ha : Numeral a) (hb : ∀ c ∈ b, Shape.isNumberChar c = true) : Numeral (a ++ b) := by
  obtain ⟨c, r, e, rfl, hc, hr⟩ := ha
  obtain ⟨e', hb⟩ := Shape.through_number (b := e) hb
  exact ⟨c, r ++ b, e', rfl, hc, by rw [Shape.through_append hr, hb]⟩

-- A sign may follow the mark of an exponent.
theorem exponent (ha : Numeral a) (hb : ∀ c ∈ b, c.isDigit = true) (p : Prop) [Decidable p] :
    Numeral (a ++ 'e' :: (if p then '-' :: b else b)) := by
  have hb := Shape.isNumberChar_of_isDigit hb
  split
  case isFalse => exact ha.append (List.forall_mem_cons.mpr ⟨rfl, hb⟩)
  case isTrue =>
    obtain ⟨c, r, e, rfl, hc, hr⟩ := ha
    obtain ⟨e', hb⟩ := Shape.through_number (b := false) hb
    have he : (Shape.number e).through ('e' :: '-' :: b) = (Shape.number false).through b := rfl
    exact ⟨c, r ++ _, e', rfl, hc, (Shape.through_append hr).trans (he.trans hb)⟩

end Numeral

namespace Text

theorem numeral_ofNat (n : Nat) : Numeral (ofNat n) :=
  .of_digits (fun _ => isDigit_of_mem_ofNat) (ofNat_ne_nil n)

end Text

namespace FloatText

open Text

theorem numeral_pointed (h : ∀ c ∈ digits, c.isDigit = true) (n : Nat) : Numeral (pointed digits n) := by
  have hzero : ∀ c ∈ ['0'], c.isDigit = true := List.forall_mem_singleton.mpr rfl
  have hwhole : Numeral (if (digits.take n).isEmpty then ['0'] else digits.take n) := by
    split
    case isTrue => exact .of_digits hzero nofun
    case isFalse hn => exact .of_digits (fun c hc => h c (List.mem_of_mem_take hc)) (by simpa using hn)
  have hrest : ∀ c ∈ (if (digits.drop n).isEmpty then ['0'] else digits.drop n), c.isDigit = true := by
    split
    case isTrue => exact hzero
    case isFalse => exact fun c hc => h c (List.mem_of_mem_drop hc)
  exact hwhole.append (List.forall_mem_cons.mpr ⟨rfl, Shape.isNumberChar_of_isDigit hrest⟩)

theorem numeral_positional (coefficient : Nat) (exponent : Int) :
    Numeral (positional coefficient exponent) := by
  rw [positional]
  split
  case isTrue => exact (numeral_ofNat _).append (List.all_eq_true.mp rfl)
  case isFalse => exact numeral_pointed (fun _ => isDigit_of_mem_padded) _

theorem numeral_scientific (coefficient : Nat) (exponent : Int) :
    Numeral (scientific coefficient exponent) := by
  have hd : ∀ c ∈ ofNat coefficient, c.isDigit = true := fun _ => isDigit_of_mem_ofNat
  have hn := ofNat_ne_nil coefficient
  refine Numeral.exponent ?_ (fun _ => isDigit_of_mem_ofNat) _
  split
  case h_1 first second rest he =>
    rw [he, List.forall_mem_cons] at hd
    have h : Numeral [first] := .of_digits (by simpa using hd.1) nofun
    exact h.append (List.forall_mem_cons.mpr ⟨rfl, Shape.isNumberChar_of_isDigit hd.2⟩)
  case h_2 => exact .of_digits hd hn

theorem numeral_magnitude (mantissa : Nat) (exponent : Int) : Numeral (magnitude mantissa exponent) := by
  rw [magnitude]
  split
  case isTrue => exact ⟨'0', ['.', '0'], false, rfl, rfl, rfl⟩
  case isFalse =>
    dsimp only
    split
    case isTrue => exact numeral_positional _ _
    case isFalse => exact numeral_scientific _ _

end FloatText

theorem Decimal.exists_numeral (x : Decimal) :
    ∃ a, Numeral a ∧ x.text = (if x.negative then ['-'] else []) ++ a := by
  obtain ⟨whole, places, htext, hwhole, hplaces, hne, -⟩ := x.exists_digits
  refine ⟨_, (Numeral.of_digits hwhole hne).append ?_, htext⟩
  split
  case isTrue => simp
  case isFalse => exact List.forall_mem_cons.mpr ⟨rfl, Shape.isNumberChar_of_isDigit hplaces⟩

namespace Text

theorem doubled_of_not_mem (h : q ∉ s) : doubled q s = s := by
  induction s
  case nil => rfl
  case cons c r ih =>
    simp only [List.mem_cons, not_or] at h
    simp [doubled, ih h.2, Ne.symm h.1]

theorem isWordChar_of_mem_hex (h : c ∈ hex b) : Dialect.isWordChar c = true := by
  obtain ⟨n, hn, rfl⟩ := exists_of_mem_hex h
  have : ∀ n < 16, Dialect.isWordChar (hexDigit n) = true := by decide
  exact this n hn

theorem isWordChar_of_mem_upperHex (h : c ∈ upperHex b) : Dialect.isWordChar c = true := by
  obtain ⟨x, hx, rfl⟩ := List.mem_map.mp h
  exact Dialect.isWordChar_toUpper (isWordChar_of_mem_hex hx)

theorem singleQuoted_upperHex (b : List UInt8) :
    singleQuoted (upperHex b) = singleQuote :: upperHex b ++ [singleQuote] := by
  rw [singleQuoted, enclosed, doubled_of_not_mem]
  exact fun h => nomatch isWordChar_of_mem_upperHex h

end Text

-- No date, time or identifier has a backslash in its text.

theorem Uuid.backslash_not_mem_text (u : Uuid) : '\\' ∉ u.text :=
  fun h => u.forall_mem_text (p := (· ≠ '\\')) (by decide) (by decide) _ h rfl

theorem Date.backslash_not_mem_text (x : Date) : '\\' ∉ x.text :=
  fun h => x.forall_mem_text (p := (· ≠ '\\')) (fun _ h => Text.ne_of_isDigit h rfl) (by decide) (by decide) _ h rfl

theorem Time.backslash_not_mem_text (x : Time) : '\\' ∉ x.text :=
  fun h => x.forall_mem_text (p := (· ≠ '\\')) (fun _ h => Text.ne_of_isDigit h rfl) (by decide) (by decide) _ h rfl

theorem Timestamp.backslash_not_mem_text (x : Timestamp) (h : separator ≠ '\\') :
    '\\' ∉ x.text separator := by
  simp [text, h.symm, x.date.backslash_not_mem_text, x.time.backslash_not_mem_text]

namespace Dialect

open Text

variable {d : Dialect} (hd : d ∈ builtins)

include hd

theorem first_of_symbol (hc : c ∈ ['(', ')', ',', '.', '*']) : d.lexis.first c = .symbol := by
  have : ∀ d ∈ builtins, ['(', ')', ',', '.', '*'].all (d.lexis.first · == .symbol) = true := by decide
  exact beq_iff_eq.mp (List.all_eq_true.mp (this d hd) c hc)

theorem spells_symbol (hc : c ∈ ['(', ')', ',', '.', '*']) : d.lexis.Spells [c] [⟨.symbol, [c]⟩] := by
  have hb : c ≠ ' ' := by
    rintro rfl
    simp at hc
  simp [Lexis.Spells, Lexis.tokens, Lexis.scan, first_of_symbol hd hc, Shape.kind?, Token.isBlank, hb]

theorem spells_numeral (h : Numeral a) : d.lexis.Spells a [⟨.number, a⟩] := by
  obtain ⟨c, r, b, rfl, hc, hr⟩ := h
  rw [← first_of_isDigit hd hc] at hr
  exact .of_through hr rfl nofun

-- A minus sign is a token of its own unless another one follows.
theorem spells_negative (h : d.lexis.Spells a ts) (ha : a.head? ≠ some '-') :
    d.lexis.Spells ('-' :: a) (⟨.operator, ['-']⟩ :: ts) := by
  have hf : (d.lexis.first '-').through [] = some .dash := by
    rw [first_eq_initial hd (.inr (.inr rfl))]
    rfl
  refine Lexis.Spells.append (.of_through hf rfl nofun) h fun s hs c hc => ?_
  cases (Lexis.shape?_of_through hf).symm.trans hs
  exact if_neg fun (h : c = '-') => ha (h ▸ hc)

theorem constant_numeral (h : Numeral a) (negative : Prop) [Decidable negative] :
    ∃ ts, d.lexis.Spells (if negative then '-' :: a else a) ts ∧ Constant ts := by
  have hs := spells_numeral hd h
  split
  case isTrue =>
    refine ⟨_, spells_negative hd hs ?_, .negative _⟩
    obtain ⟨c, r, b, rfl, hc, -⟩ := h
    rintro ⟨⟩
    nomatch hc
  case isFalse => exact ⟨_, hs, .number a⟩

theorem constant_word (h : isPlain a = true) (hw : upperWord a ∉ Keywords.leading) :
    ∃ ts, d.lexis.Spells a ts ∧ Constant ts :=
  ⟨_, spells_plain hd h, .word hw⟩

theorem constant_int (i : Int) : ∃ ts, d.lexis.Spells (ofInt i) ts ∧ Constant ts :=
  constant_numeral hd (numeral_ofNat _) _

theorem constant_float (x : Float) : ∃ ts, d.lexis.Spells (FloatText.render x) ts ∧ Constant ts := by
  rw [FloatText.render]
  split
  case h_1 => exact constant_word hd (by decide) (by decide)
  case h_2 =>
    exact ⟨_, spells_negative hd (spells_plain hd (a := ['i', 'n', 'f']) (by decide)) (by decide),
      .negativeWord (by decide)⟩
  case h_3 => exact constant_word hd (by decide) (by decide)
  case h_4 m e _ => exact constant_numeral hd (FloatText.numeral_magnitude m e) True
  case h_5 m e _ => exact constant_numeral hd (FloatText.numeral_magnitude m e) False

theorem constant_decimal (x : Decimal) : ∃ ts, d.lexis.Spells x.text ts ∧ Constant ts := by
  obtain ⟨a, ha, hx⟩ := x.exists_numeral
  have := constant_numeral hd ha (x.negative = true)
  rw [hx]
  cases h : x.negative <;> simpa [h] using this

theorem constant_boolean (b : Bool) : ∃ ts, d.lexis.Spells (d.booleanLiteral b).toList ts ∧ Constant ts := by
  have hn : ∀ w ∈ ["0", "1"], Numeral w.toList := by
    simp only [List.forall_mem_cons]
    exact ⟨⟨_, _, _, rfl, rfl, rfl⟩, ⟨_, _, _, rfl, rfl, rfl⟩, nofun⟩
  unfold booleanLiteral
  split
  case h_1 => exact constant_word hd (by decide) (by decide)
  case h_2 => exact constant_word hd (by decide) (by decide)
  case h_3 => exact constant_numeral hd (hn "1" (by decide)) False
  case h_4 => exact constant_numeral hd (hn "0" (by decide)) False

theorem meets_quoted (hs : d.backslashEscapes = true → '\\' ∉ s) (hc : c ≠ singleQuote) :
    d.lexis.Meets (singleQuoted s) (c :: r) := by
  obtain ⟨q, -, hq, hclose, -, he⟩ := exists_textQuote hd
  have h := Shape.through_closing (Shape.through_doubled fun h => hs (he ▸ h))
  rw [hclose, ← hq] at h
  rintro t ht _ ⟨⟩
  cases (Lexis.shape?_of_through h).symm.trans ht
  exact if_neg (hclose ▸ hc)

theorem constant_quoted (hs : d.backslashEscapes = true → '\\' ∉ s) :
    ∃ ts, d.lexis.Spells (quoted s).toList ts ∧ Constant ts := by
  rw [quoted, String.toList_ofList]
  exact ⟨_, spells_quoted hd hs, .text _⟩

-- Where a backslash has a meaning, each one of a text is doubled.
theorem spells_escaped (s : List Char) : let a := singleQuoted (if d.backslashEscapes then doubled '\\' s else s)
    d.lexis.Spells a [⟨.text, a⟩] := by
  cases he : d.backslashEscapes
  case false => exact spells_quoted hd (by simp [he])
  case true =>
    obtain ⟨q, -, hq, hc, hk, hqe⟩ := exists_textQuote hd
    have hb : q.closing ≠ '\\' := by
      rw [hc]
      decide
    have h := Shape.through_closing (Shape.through_doubled_escapes (hqe.trans he) hb s)
    rw [hc, ← hq] at h
    exact .of_through h (by rw [Shape.kind?, hk]) nofun

-- A word that marks the text after it, with nothing in between.
theorem constant_marked (hw : isPlain w = true) (hl : upperWord w ∉ Keywords.leading)
    (h : d.lexis.Spells (singleQuote :: a) [⟨.text, b⟩]) :
    ∃ ts, d.lexis.Spells (w ++ singleQuote :: a) ts ∧ Constant ts :=
  ⟨_, (spells_plain hd hw).append h (.of_word (shape?_plain hd hw) rfl), .marked b hl⟩

theorem constant_text (s : String) : ∃ ts, d.lexis.Spells (d.stringLiteral s).toList ts ∧ Constant ts := by
  have hs := spells_escaped hd s.toList
  have hm : ∀ d ∈ builtins, d.textMark = "" ∨ d.textMark = "N" := by decide
  rw [stringLiteral, quoted, String.toList_append, String.toList_ofList]
  rcases hm d hd with h | h
  all_goals rw [h]
  case inl => exact ⟨_, hs, .text _⟩
  case inr => exact constant_marked hd (by decide) (by decide) hs

theorem bytesMarks_cases : d.bytesMarks = ⟨"X'", "'"⟩ ∨ d = .postgres ∨
    d.bytesMarks = ⟨"0x", ""⟩ ∨ d.bytesMarks = ⟨"HEXTORAW('", "')"⟩ := by
  simp only [builtins, List.mem_cons, List.not_mem_nil, or_false] at hd
  rcases hd with rfl | rfl | rfl | rfl | rfl <;> simp [postgres, mySql, sqlite, sqlServer, oracle]

theorem constant_bytes (b : List UInt8) : ∃ ts, d.lexis.Spells (d.bytesLiteral b).toList ts ∧ Constant ts := by
  have hb : '\\' ∉ upperHex b := fun h => nomatch isWordChar_of_mem_upperHex h
  have hx := spells_quoted hd (s := upperHex b) fun _ => hb
  rw [singleQuoted_upperHex] at hx
  rw [bytesLiteral, String.toList_append, String.toList_append, String.toList_ofList]
  rcases bytesMarks_cases hd with h | rfl | h | h
  case inl =>
    rw [h]
    exact constant_marked hd (w := ['X']) (by decide) (by decide) hx
  case inr.inl =>
    have hcast : Lexis.Spells .postgres [':', ':', 'b', 'y', 't', 'e', 'a']
        [⟨.operator, [':', ':']⟩, ⟨.word, ['b', 'y', 't', 'e', 'a']⟩] := by decide
    have hq : singleQuote ∉ '\\' :: 'x' :: upperHex b := by
      simpa [singleQuote] using fun h => nomatch isWordChar_of_mem_upperHex h
    have := (spells_quoted hd (s := '\\' :: 'x' :: upperHex b) nofun).append hcast
      (meets_quoted hd nofun (by decide))
    rw [singleQuoted, enclosed, doubled_of_not_mem hq] at this
    exact ⟨_, by simpa [postgres, singleQuote] using this, .cast _ _⟩
  case inr.inr.inl =>
    have hn : Numeral ['0', 'x'] := ⟨'0', ['x'], false, rfl, rfl, rfl⟩
    have := hn.append (b := upperHex b) fun c hc => by
      simp [Shape.isNumberChar, isWordChar_of_mem_upperHex hc]
    rw [h]
    exact ⟨_, by simpa using spells_numeral hd this, .number _⟩
  case inr.inr.inr =>
    have hw : isPlain "HEXTORAW".toList = true := by decide
    have hopen : ∀ d ∈ builtins, d.lexis.shape? ("HEXTORAW".toList ++ ['(']) = some .symbol := by decide
    have := ((spells_plain hd hw).append (spells_symbol hd (c := '(') (by decide))
      (.of_word (shape?_plain hd hw) rfl)).append hx
      (.of_symbol (hopen d hd))
    have := this.append (spells_symbol hd (c := ')') (by decide)) (this.boundary (by simp [boundaries]))
    rw [h]
    exact ⟨_, by simpa [singleQuote] using this, .call _ (by decide)⟩

theorem constant_temporal (hw : isPlain w.toList = true) (hl : upperWord w.toList ∉ Keywords.leading)
    (hs : '\\' ∉ s) : ∃ ts, d.lexis.Spells (d.temporalLiteral w s).toList ts ∧ Constant ts := by
  rw [temporalLiteral]
  cases d.typedTemporals
  case false => exact constant_quoted hd fun _ => hs
  case true =>
    have hblank : ∀ d ∈ builtins, d.lexis.Spells [' '] [] ∧ d.lexis.shape? [' '] = some .symbol := by
      decide
    obtain ⟨hb, hsym⟩ := hblank d hd
    have := (spells_plain hd hw).append (hb.append (spells_quoted hd fun _ => hs) (.of_symbol hsym))
      (.of_word (shape?_plain hd hw) rfl)
    exact ⟨_, by simpa [quoted] using this, .marked _ hl⟩

theorem constant_zoned (hs : '\\' ∉ s) :
    ∃ ts, d.lexis.Spells (d.temporalLiteral d.zonedKeyword s).toList ts ∧ Constant ts := by
  have hz : ∀ d ∈ builtins, d.zonedKeyword = "TIMESTAMP" ∨ d.zonedKeyword = "TIMESTAMP WITH TIME ZONE" := by
    decide
  rcases hz d hd with h | h
  all_goals rw [h]
  case inl => exact constant_temporal hd (by decide) (by decide) hs
  case inr =>
    rw [temporalLiteral]
    cases d.typedTemporals
    case false => exact constant_quoted hd fun _ => hs
    case true =>
      have hw : ∀ d ∈ builtins, d.lexis.Spells "TIMESTAMP WITH TIME ZONE ".toList
          [⟨.word, "TIMESTAMP".toList⟩, ⟨.word, "WITH".toList⟩, ⟨.word, "TIME".toList⟩,
            ⟨.word, "ZONE".toList⟩] ∧
          d.lexis.shape? "TIMESTAMP WITH TIME ZONE ".toList = some .symbol := by
        decide
      obtain ⟨hw, hsym⟩ := hw d hd
      have := hw.append (spells_quoted hd fun _ => hs) (.of_symbol hsym)
      exact ⟨_, by simpa [quoted] using this, .zoned _⟩

theorem constant_literal (v : Value) : ∃ ts, d.lexis.Spells (d.literal v).toList ts ∧ Constant ts := by
  cases v
  case null => exact constant_word hd (a := "NULL".toList) (by decide) (by decide)
  case bool b => exact constant_boolean hd b
  case int i => exact String.toList_ofList ▸ constant_int hd _
  case float x => exact String.toList_ofList ▸ constant_float hd x
  case decimal x => exact String.toList_ofList ▸ constant_decimal hd x
  case text s => exact constant_text hd s
  case bytes b => exact constant_bytes hd b
  case uuid u => exact constant_quoted hd fun _ => u.backslash_not_mem_text
  case date x => exact constant_temporal hd (by decide) (by decide) x.backslash_not_mem_text
  case time x => exact constant_temporal hd (by decide) (by decide) x.backslash_not_mem_text
  case timestamp x =>
    exact constant_temporal hd (by decide) (by decide) (x.backslash_not_mem_text (by decide))
  case timestampTz x =>
    have hx : '\\' ∉ x.text ' ' := x.backslash_not_mem_text (by decide)
    exact constant_zoned hd (by simp [hx])

end Dialect

end PolySql
