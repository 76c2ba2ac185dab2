import Mathlib.Data.List.Basic
import PolySql.Dialect.Representation
import PolySql.Proofs.Sql.Lexer

namespace PolySql

-- The characters of words are among the first few, so what holds of each can be computed.
theorem lt_of_isWordChar (h : Dialect.isWordChar c = true) : c.toNat < 128 := by
  delta Dialect.isWordChar Char.isAlphanum Char.isAlpha Char.isUpper Char.isLower Char.isDigit at h
  simp only [Bool.or_eq_true, Bool.and_eq_true, decide_eq_true_eq, beq_iff_eq, ge_iff_le,
    UInt32.le_iff_toNat_le, Char.toNat_val] at h
  rcases h with ((h | h) | h) | rfl
  case inr => decide
  all_goals
    have := h.2
    simp at this
    omega

theorem of_isWordChar {p : Char → Prop} (hp : ∀ n < 128, Dialect.isWordChar (.ofNat n) = true → p (.ofNat n))
    (h : Dialect.isWordChar c = true) : p c := by
  have := hp c.toNat (lt_of_isWordChar h)
  rw [Char.ofNat_toNat] at this
  exact this h

namespace Dialect

theorem isWordChar_of_isWordStart (h : isWordStart c = true) : isWordChar c = true := by
  simp only [isWordStart, isWordChar, Char.isAlphanum, Bool.or_eq_true] at h ⊢
  tauto

theorem isWordChar_of_isDigit (h : c.isDigit = true) : isWordChar c = true := by
  simp [isWordChar, Char.isAlphanum, h]

theorem isWordStart_toUpper (h : isWordStart c = true) : isWordStart c.toUpper = true :=
  of_isWordChar (p := fun c => isWordStart c = true → isWordStart c.toUpper = true) (by decide)
    (isWordChar_of_isWordStart h) h

theorem isWordStart_toLower (h : isWordStart c = true) : isWordStart c.toLower = true :=
  of_isWordChar (p := fun c => isWordStart c = true → isWordStart c.toLower = true) (by decide)
    (isWordChar_of_isWordStart h) h

theorem isWordChar_toUpper (h : isWordChar c = true) : isWordChar c.toUpper = true :=
  of_isWordChar (p := fun c => isWordChar c.toUpper = true) (by decide) h

theorem isWordChar_toLower (h : isWordChar c = true) : isWordChar c.toLower = true :=
  of_isWordChar (p := fun c => isWordChar c.toLower = true) (by decide) h

theorem toUpper_toLower (h : isWordChar c = true) : c.toLower.toUpper = c.toUpper :=
  of_isWordChar (p := fun c => c.toLower.toUpper = c.toUpper) (by decide) h

theorem toUpper_toUpper (h : isWordChar c = true) : c.toUpper.toUpper = c.toUpper :=
  of_isWordChar (p := fun c => c.toUpper.toUpper = c.toUpper) (by decide) h

theorem isNameChar_of_isWordChar (h : isWordChar c = true) : Shape.isNameChar c = true := by
  simp only [isWordChar, isWordStart, Char.isAlphanum, Shape.isNameChar, Shape.isLetter,
    Bool.or_eq_true] at h ⊢
  tauto

theorem all_of_isPlain (h : isPlain s = true) : ∀ c ∈ s, isWordChar c = true := by
  cases s
  case nil => nomatch h
  case cons c r =>
    simp only [isPlain, Bool.and_eq_true, List.all_eq_true] at h
    simpa using ⟨isWordChar_of_isWordStart h.1, h.2⟩

theorem isPlain_fold (d : Dialect) (h : isPlain s = true) : isPlain (d.fold s) = true := by
  cases s
  case nil => nomatch h
  case cons c r =>
    simp only [isPlain, Bool.and_eq_true, List.all_eq_true] at h
    cases hc : d.identifierCase <;> simp only [fold, hc]
    case upper =>
      simpa [isPlain, isWordStart_toUpper h.1] using fun c hc => isWordChar_toUpper (h.2 c hc)
    case lower =>
      simpa [isPlain, isWordStart_toLower h.1] using fun c hc => isWordChar_toLower (h.2 c hc)
    case preserve => simpa [isPlain] using h

-- To fold a word changes no more than the case of its letters.
theorem upperWord_fold (d : Dialect) (h : isPlain s = true) : upperWord (d.fold s) = upperWord s := by
  have h := all_of_isPlain h
  cases hc : d.identifierCase <;> simp only [fold, hc, upperWord, List.map_map]
  case upper => exact congrArg _ (List.map_congr_left fun c hc => toUpper_toUpper (h c hc))
  case lower => exact congrArg _ (List.map_congr_left fun c hc => toUpper_toLower (h c hc))

end Dialect

def Token.isBlank (t : Token) : Bool :=
  t == ⟨.symbol, [' ']⟩

theorem Lexis.Meets.of_word {l : Lexis} (h : l.shape? a = some .word) (hc : Shape.isNameChar c = false) :
    l.Meets a (c :: b) := by
  rintro s hs _ ⟨⟩
  cases h.symm.trans hs
  simp [Shape.next?, hc]

-- A name that is quoted, or a word that is not reserved.
def Token.IsName (t : Token) : Prop :=
  t.kind = .name ∨ t.kind = .word ∧ Dialect.upperWord t.chars ∉ Keywords.common

theorem Token.IsName.kind_ne {t : Token} (h : t.IsName) : t.kind ≠ .placeholder := by
  rcases h with h | ⟨h, -⟩ <;> simp [h]

-- The tokens of the text without the blanks.
def Lexis.Spells (l : Lexis) (a : List Char) (ts : List Token) : Prop :=
  (l.tokens a).map (·.filter (!·.isBlank)) = some ts

instance : Decidable (Lexis.Spells l a ts) :=
  inferInstanceAs (Decidable (_ = _))

namespace Lexis.Spells

variable {l : Lexis} {a b : List Char} {ts us : List Token}

theorem append (ha : l.Spells a ts) (hb : l.Spells b us) (h : l.Meets a b) :
    l.Spells (a ++ b) (ts ++ us) := by
  obtain ⟨xs, hx, rfl⟩ := Option.map_eq_some_iff.mp ha
  obtain ⟨ys, hy, rfl⟩ := Option.map_eq_some_iff.mp hb
  simp [Spells, tokens_append h, hx, hy]

theorem of_through (h : (l.first c).through a = some s) (hk : s.kind? = some k) (hb : k ≠ .symbol) :
    l.Spells (c :: a) [⟨k, c :: a⟩] := by
  simp [Spells, tokens_of_through h hk, Token.isBlank, hb]

theorem forall_tokens (h : l.Spells a ts) (hk : ∀ t ∈ ts, t.kind ≠ .placeholder) :
    ∃ all, l.tokens a = some all ∧ all.filter (!·.isBlank) = ts ∧ ∀ t ∈ all, t.kind ≠ .placeholder := by
  obtain ⟨all, ha, rfl⟩ := Option.map_eq_some_iff.mp h
  refine ⟨all, ha, rfl, fun t ht => ?_⟩
  cases hb : t.isBlank
  case false => exact hk t (by simp [ht, hb])
  case true =>
    rw [Token.isBlank, beq_iff_eq] at hb
    simp [hb]

theorem boundary (h : l.Spells a ts) (hb : ∀ c ∈ b.head?, c ∈ boundaries) : l.Meets a b := by
  obtain ⟨_, h, _⟩ := Option.map_eq_some_iff.mp h
  exact .of_boundary h hb

end Lexis.Spells

namespace Shape

theorem through_word (h : ∀ c ∈ a, Dialect.isWordChar c = true) : word.through a = some word := by
  induction a
  case nil => rfl
  case cons c r ih =>
    rw [List.forall_mem_cons] at h
    simp [through, next?, Dialect.isNameChar_of_isWordChar h.1, ih h.2]

theorem through_placeholder (h : ∀ c ∈ a, Dialect.isWordChar c = true) :
    placeholder.through a = some placeholder := by
  induction a
  case nil => rfl
  case cons c r ih =>
    rw [List.forall_mem_cons] at h
    simp [through, next?, h.1, ih h.2]

theorem isNumberChar_of_isDigit {a : List Char} (h : ∀ c ∈ a, c.isDigit = true) :
    ∀ c ∈ a, isNumberChar c = true := by
  intro c hc
  simp [isNumberChar, Dialect.isWordChar_of_isDigit (h c hc)]

theorem through_number (h : ∀ c ∈ a, isNumberChar c = true) :
    ∃ b', (number b).through a = some (number b') := by
  induction a generalizing b
  case nil => exact ⟨b, rfl⟩
  case cons c r ih =>
    rw [List.forall_mem_cons] at h
    obtain ⟨b', hb⟩ := ih (b := isExponentMark c) h.2
    exact ⟨b', by simp [through, next?, h.1, hb]⟩

variable {q : Quote}

theorem through_doubled (hs : q.escapes = true → '\\' ∉ s) :
    (quoted q).through (Text.doubled q.closing s) = some (quoted q) := by
  induction s
  case nil => rfl
  case cons c r ih =>
    have ih := ih fun h => List.not_mem_of_not_mem_cons (hs h)
    by_cases hc : c = q.closing
    case pos => simp [Text.doubled, hc, through, next?, ih]
    case neg =>
      have he : ¬(q.escapes = true ∧ c = '\\') := fun h => by simpa [h.2] using hs h.1
      simp [Text.doubled, hc, through, next?, he, ih]

-- A backslash that is written twice stands for itself.
theorem through_doubled_escapes (he : q.escapes = true) (hq : q.closing ≠ '\\') (s : List Char) :
    (quoted q).through (Text.doubled q.closing (Text.doubled '\\' s)) = some (quoted q) := by
  induction s
  case nil => rfl
  case cons c r ih =>
    by_cases hb : c = '\\'
    case pos => simp [Text.doubled, hb, hq.symm, through, next?, he, ih]
    case neg =>
      by_cases hc : c = q.closing
      case pos =>
        have hb : q.closing ≠ '\\' := hq
        simp [Text.doubled, hc, hb, through, next?, ih]
      case neg => simp [Text.doubled, hb, hc, through, next?, ih]

theorem through_closing (h : (quoted q).through a = some (quoted q)) :
    (quoted q).through (a ++ [q.closing]) = some (closed q) := by
  rw [through_append h]
  simp [through, next?]

end Shape

namespace Lexis

theorem first_of_not_mem {l : Lexis} (h : c ∉ l.mark :: (l.quotes.map (·.opening) ++ l.comments)) :
    l.first c = .initial c := by
  simp only [List.mem_cons, List.mem_append, List.mem_map, not_or, not_exists, not_and] at h
  have hq : l.quotes.find? (·.opening == c) = none := by
    simpa using h.2.1
  simp [first, hq, h.1, h.2.2]

end Lexis

namespace Dialect

variable {d : Dialect} (hd : d ∈ builtins)

include hd

theorem first_eq_initial
    (h : Shape.initial c = .word ∨ Shape.initial c = .number false ∨ Shape.initial c = .dash) :
    d.lexis.first c = .initial c := by
  refine Lexis.first_of_not_mem fun hc => ?_
  have : ∀ d ∈ builtins, (d.lexis.mark :: (d.lexis.quotes.map (·.opening) ++ d.lexis.comments)).any
      (Shape.initial · ∈ [.word, .number false, .dash]) = false := by
    decide
  have := List.any_eq_false.mp (this d hd) c hc
  simp at this
  tauto

theorem first_of_isWordStart (h : isWordStart c = true) : d.lexis.first c = .word := by
  have : Shape.initial c = .word := by simp [Shape.initial, Shape.isLetter, h]
  rw [first_eq_initial hd (.inl this), this]

theorem first_of_isDigit (h : c.isDigit = true) : d.lexis.first c = .number false := by
  have := of_isWordChar (p := fun c => c.isDigit = true → Shape.initial c = .number false) (by decide)
    (isWordChar_of_isDigit h) h
  rw [first_eq_initial hd (.inr (.inl this)), this]

theorem exists_nameQuote : ∃ q ∈ d.lexis.quotes, d.lexis.first d.openQuote = .quoted q ∧
    q.closing = d.closeQuote ∧ q.kind = .name ∧ q.escapes = false := by
  revert d
  decide

theorem exists_textQuote : ∃ q ∈ d.lexis.quotes, d.lexis.first Text.singleQuote = .quoted q ∧
    q.closing = Text.singleQuote ∧ q.kind = .text ∧ q.escapes = d.backslashEscapes := by
  revert d
  decide

theorem through_plain (h : isPlain (c :: r) = true) : (d.lexis.first c).through r = some .word := by
  simp only [isPlain, Bool.and_eq_true, List.all_eq_true] at h
  rw [first_of_isWordStart hd h.1]
  exact Shape.through_word h.2

theorem spells_plain (h : isPlain a = true) : d.lexis.Spells a [⟨.word, a⟩] := by
  cases a
  case nil => nomatch h
  case cons => exact .of_through (through_plain hd h) rfl nofun

theorem shape?_plain (h : isPlain a = true) : d.lexis.shape? a = some .word := by
  cases a
  case nil => nomatch h
  case cons => exact Lexis.shape?_of_through (through_plain hd h)

theorem spells_quoted (hs : d.backslashEscapes = true → '\\' ∉ s) :
    d.lexis.Spells (Text.singleQuoted s) [⟨.text, Text.singleQuoted s⟩] := by
  obtain ⟨q, -, hq, hc, hk, he⟩ := exists_textQuote hd
  have h := Shape.through_closing (Shape.through_doubled fun h => hs (he ▸ h))
  rw [hc, ← hq] at h
  exact .of_through h (by rw [Shape.kind?, hk]) nofun

theorem spells_identifier (s : String) : ∃ t : Token, t.IsName ∧ d.lexis.Spells (d.identifier s).toList [t] ∧
    (∀ r, d.lexis.Meets (d.identifier s).toList ('.' :: r)) ∧ t.chars = (d.identifier s).toList := by
  rw [identifier, String.toList_ofList]
  cases hn : d.needsQuotes s
  case true =>
    obtain ⟨q, -, hq, hc, hk, he⟩ := exists_nameQuote hd
    have h := Shape.through_closing (q := q) (Shape.through_doubled (s := s.toList) (by simp [he]))
    rw [← hq, hc] at h
    refine ⟨_, .inl hk, .of_through h rfl (by simp [hk]), ?_, rfl⟩
    intro r t ht c hc
    cases (Lexis.shape?_of_through h).symm.trans ht
    cases hc
    exact if_neg fun (hc : '.' = q.closing) => q.closing_not_mem (hc ▸ List.mem_cons_self)
  case false =>
    simp only [needsQuotes, Bool.or_eq_false_iff, Bool.not_eq_false'] at hn
    have hp := isPlain_fold d hn.1.1
    have hu := upperWord_fold d hn.1.1
    refine ⟨_, .inr ⟨rfl, ?_⟩, spells_plain hd hp, fun r => .of_word (shape?_plain hd hp) rfl, rfl⟩
    have := hn.1.2
    simp_all [isKeyword]

end Dialect

end PolySql
