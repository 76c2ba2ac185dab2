import PolySql.Dialect.Builtin
import PolySql.Dialect.Identifier

namespace PolySql

-- A blank is a symbol like any other.
inductive TokenKind
  | word
  | number
  | name
  | text
  | placeholder
  | operator
  | symbol
  deriving DecidableEq

structure Token where
  kind : TokenKind
  chars : List Char
  deriving DecidableEq

-- The characters that stand around the parts of a list.
def boundaries : List Char := [' ', ',', '(', ')']

-- Marks around a name or a character string. Inside, the closing one is written twice, and on some
-- vendors a backslash takes the meaning from the character that follows it.
structure Quote where
  opening : Char
  closing : Char
  kind : TokenKind
  escapes : Bool
  closing_not_mem : closing ∉ '.' :: boundaries
  deriving DecidableEq

-- The lexical rules of a vendor: the quotes, the character that begins a placeholder, and those that
-- begin a comment by themselves.
structure Lexis where
  quotes : List Quote
  mark : Char
  comments : List Char

namespace Lexis

def standardText : Quote :=
  ⟨Text.singleQuote, Text.singleQuote, .text, false, by decide⟩

def standardName : Quote :=
  ⟨'"', '"', .name, false, by decide⟩

def backtickName : Quote :=
  ⟨'\x60', '\x60', .name, false, by decide⟩

def postgres : Lexis :=
  ⟨[standardName, standardText], '$', []⟩

def mySql : Lexis :=
  ⟨[backtickName, { standardText with escapes := true }, ⟨'"', '"', .text, true, by decide⟩], '?', ['#']⟩

def sqlite : Lexis :=
  ⟨[standardName, backtickName, standardText], '?', []⟩

def sqlServer : Lexis :=
  ⟨[⟨'[', ']', .name, false, by decide⟩, standardName, standardText], '@', []⟩

def oracle : Lexis :=
  ⟨[standardName, standardText], ':', []⟩

def vendors : List Lexis :=
  [postgres, mySql, sqlite, sqlServer, oracle]

end Lexis

def Dialect.lexis (d : Dialect) : Lexis :=
  if d.name = "mysql" then .mySql
  else if d.name = "sqlite" then .sqlite
  else if d.name = "sqlserver" then .sqlServer
  else if d.name = "oracle" then .oracle
  else .postgres

theorem Dialect.lexis_mem_vendors (d : Dialect) : d.lexis ∈ Lexis.vendors := by
  unfold lexis
  repeat' split
  all_goals simp [Lexis.vendors]

theorem Dialect.lexis_mem {d : Dialect} (hd : d ∈ builtins) : d.lexis ∈ Lexis.vendors := by
  simp only [builtins, List.mem_cons, List.not_mem_nil, or_false] at hd
  rcases hd with rfl | rfl | rfl | rfl | rfl <;> simp [lexis, Lexis.vendors, postgres, mySql, sqlite, sqlServer, oracle]

-- How far the reading of a token has come. The marks of a comment that take two characters begin as
-- operators do.
inductive Shape
  | word
  | number (signed : Bool)
  | placeholder
  | operator
  | symbol
  | dash
  | slash
  | comment
  | quoted (q : Quote)
  | escaped (q : Quote)
  | closed (q : Quote)
  deriving DecidableEq

namespace Shape

def isLetter (c : Char) : Bool :=
  Dialect.isWordStart c || 128 ≤ c.toNat

def isNameChar (c : Char) : Bool :=
  isLetter c || c.isDigit || c == '$' || c == '#' || c == '@'

def isNumberChar (c : Char) : Bool :=
  Dialect.isWordChar c || c == '.'

def isExponentMark (c : Char) : Bool :=
  c == 'e' || c == 'E'

def isSign (c : Char) : Bool :=
  c == '+' || c == '-'

def isOperatorChar (c : Char) : Bool :=
  ['<', '>', '=', '!', '|', ':', '+', '%', '&', '^', '~'].contains c

-- The shape of a token by its first character, if that has no meaning of its own for the vendor.
def initial (c : Char) : Shape :=
  if isLetter c then word
  else if c.isDigit then number false
  else if c = '-' then dash
  else if c = '/' then slash
  else if isOperatorChar c then operator
  else symbol

-- The shape after one more character, if that belongs to the token.
def next? (c : Char) : Shape → Option Shape
  | word => if isNameChar c then some word else none
  | number signed =>
    if isNumberChar c then some (number (isExponentMark c))
    else if signed && isSign c then some (number false)
    else none
  | placeholder => if Dialect.isWordChar c then some placeholder else none
  | operator => if isOperatorChar c then some operator else none
  | symbol => none
  | dash => if c = '-' then some comment else none
  | slash => if c = '*' then some comment else none
  | comment => some comment
  | quoted q =>
    if c = q.closing then some (closed q)
    else if q.escapes && c == '\\' then some (escaped q)
    else some (quoted q)
  | escaped q => some (quoted q)
  | closed q => if c = q.closing then some (quoted q) else none

-- The kind of the token if it ends here. An open quote may not end, and no comments are read at all.
def kind? : Shape → Option TokenKind
  | word => some .word
  | number _ => some .number
  | placeholder => some .placeholder
  | operator | dash | slash => some .operator
  | symbol => some .symbol
  | closed q => some q.kind
  | comment | quoted _ | escaped _ => none

-- The shape after more characters, all of which belong to the token.
def through (s : Shape) : List Char → Option Shape
  | [] => some s
  | c :: r => (s.next? c).bind (·.through r)

end Shape

namespace Lexis

-- The shape of a token by its first character.
def first (l : Lexis) (c : Char) : Shape :=
  match l.quotes.find? (·.opening == c) with
  | some q => .quoted q
  | none =>
    if c = l.mark then .placeholder
    else if l.comments.contains c then .comment
    else .initial c

-- Reads on in a token of which some characters have been seen.
def scan (l : Lexis) (s : Shape) (seen : List Char) : List Char → Option (List Token)
  | [] => s.kind?.map fun k => [⟨k, seen⟩]
  | c :: r =>
    match s.next? c with
    | some s' => l.scan s' (seen ++ [c]) r
    | none => do
      let kind ← s.kind?
      let rest ← l.scan (l.first c) [c] r
      return ⟨kind, seen⟩ :: rest

-- A text as tokens, each of them as long as can be.
def tokens (l : Lexis) : List Char → Option (List Token)
  | [] => some []
  | c :: r => l.scan (l.first c) [c] r

-- The shape of the last token.
def shape (l : Lexis) (s : Shape) : List Char → Shape
  | [] => s
  | c :: r => l.shape ((s.next? c).getD (l.first c)) r

def shape? (l : Lexis) : List Char → Option Shape
  | [] => none
  | c :: r => some (l.shape (l.first c) r)

-- A token ends where the one text meets the other.
def Meets (l : Lexis) (a b : List Char) : Prop :=
  ∀ s ∈ l.shape? a, ∀ c ∈ b.head?, s.next? c = none

variable {l : Lexis} {s s' : Shape} {a b seen : List Char} {ts : List Token}

-- Nothing of the text is lost.
theorem flatMap_chars_scan (h : l.scan s seen a = some ts) : ts.flatMap (·.chars) = seen ++ a := by
  induction a generalizing s seen ts
  case nil =>
    obtain ⟨k, -, rfl⟩ := Option.map_eq_some_iff.mp h
    simp
  case cons c r ih =>
    rw [scan] at h
    cases hn : s.next? c
    case some s' =>
      rw [hn] at h
      simpa using ih h
    case none =>
      simp only [hn, Option.bind_eq_bind, Option.bind_eq_some_iff] at h
      obtain ⟨k, -, rest, hrest, h⟩ := h
      cases h
      simpa using ih hrest

theorem flatMap_chars_tokens (h : l.tokens a = some ts) : ts.flatMap (·.chars) = a := by
  cases a
  case nil =>
    cases h
    rfl
  case cons c r => simpa using flatMap_chars_scan h

theorem scan_append (h : (l.shape s a).next? c = none) :
    l.scan s seen (a ++ c :: b) = do
      return (← l.scan s seen a) ++ (← l.tokens (c :: b)) := by
  induction a generalizing s seen
  case nil =>
    rw [shape] at h
    cases hk : s.kind? <;> simp [scan, tokens, h, hk]
  case cons d r ih =>
    rw [shape] at h
    cases hn : s.next? d
    case some s' => simpa [scan, hn] using ih (by simpa [hn] using h)
    case none =>
      have ih := @ih _ [d] (by simpa [hn] using h)
      cases hk : s.kind? <;> simp [scan, hn, hk, ih, Option.bind_assoc]

theorem tokens_append (h : l.Meets a b) :
    l.tokens (a ++ b) = do return (← l.tokens a) ++ (← l.tokens b) := by
  cases a
  case nil => simp [tokens]
  case cons c r =>
    cases b
    case nil => simp [tokens]
    case cons d t => exact scan_append (h _ rfl d rfl)

-- A text that could be read does not end within a token.
theorem exists_kind_shape (h : l.scan s seen a = some ts) : ∃ k, (l.shape s a).kind? = some k := by
  induction a generalizing s seen ts
  case nil =>
    obtain ⟨k, hk, -⟩ := Option.map_eq_some_iff.mp h
    exact ⟨k, hk⟩
  case cons c r ih =>
    rw [scan] at h
    cases hn : s.next? c
    case some s' =>
      rw [hn] at h
      simpa [shape, hn] using ih h
    case none =>
      simp only [hn, Option.bind_eq_bind, Option.bind_eq_some_iff] at h
      obtain ⟨k, -, rest, hrest, -⟩ := h
      simpa [shape, hn] using ih hrest

theorem exists_kind_shape? (h : l.tokens a = some ts) : ∀ s ∈ l.shape? a, ∃ k, s.kind? = some k := by
  cases a
  case nil => simp [shape?]
  case cons c r =>
    rintro _ ⟨⟩
    exact exists_kind_shape h

theorem scan_through (h : s.through a = some s') : l.scan s seen (a ++ b) = l.scan s' (seen ++ a) b := by
  induction a generalizing s seen
  case nil =>
    cases h
    simp
  case cons c r ih =>
    obtain ⟨t, hn, ht⟩ := Option.bind_eq_some_iff.mp h
    simp [scan, hn, ih ht]

theorem shape_through (h : s.through a = some s') : l.shape s a = s' := by
  induction a generalizing s
  case nil =>
    cases h
    rfl
  case cons c r ih =>
    obtain ⟨t, hn, ht⟩ := Option.bind_eq_some_iff.mp h
    simp [shape, hn, ih ht]

-- A text that is one token.
theorem tokens_of_through (h : (l.first c).through a = some s) (hk : s.kind? = some k) :
    l.tokens (c :: a) = some [⟨k, c :: a⟩] := by
  have hs : l.scan (l.first c) [c] (a ++ []) = _ := scan_through h
  simpa [tokens, scan, hk] using hs

theorem shape?_of_through (h : (l.first c).through a = some s) : l.shape? (c :: a) = some s := by
  simp [shape?, shape_through h]

end Lexis

theorem Shape.next?_of_boundary (hk : Shape.kind? s = some k) (hc : c ∈ boundaries) :
    s.next? c = none := by
  have hn (p : Char → Bool) (hp : boundaries.any p = false) : p c = false :=
    Bool.eq_false_iff.mpr (List.any_eq_false.mp hp c hc)
  cases s
  case word => simp [next?, hn isNameChar (by decide)]
  case number => simp [next?, hn isNumberChar (by decide), hn isSign (by decide)]
  case placeholder => simp [next?, hn Dialect.isWordChar (by decide)]
  case operator => simp [next?, hn isOperatorChar (by decide)]
  case symbol => rfl
  case dash => simpa [next?] using hn (· == '-') (by decide)
  case slash => simpa [next?] using hn (· == '*') (by decide)
  case closed q =>
    have hq := q.closing_not_mem
    rw [List.mem_cons, not_or] at hq
    rw [next?, if_neg fun (h : c = q.closing) => hq.2 (h ▸ hc)]
  all_goals nomatch hk

theorem Lexis.Meets.of_boundary {l : Lexis} (h : l.tokens a = some ts) (hb : ∀ c ∈ b.head?, c ∈ boundaries) :
    l.Meets a b := by
  intro s hs c hc
  obtain ⟨k, hk⟩ := exists_kind_shape? h s hs
  exact Shape.next?_of_boundary hk (hb c hc)

theorem Lexis.Meets.of_symbol {l : Lexis} (h : l.shape? a = some .symbol) : l.Meets a b := by
  intro s hs c _
  cases h.symm.trans hs
  rfl

theorem Shape.through_append (h : s.through a = some s') :
    Shape.through s (a ++ b) = s'.through b := by
  induction a generalizing s
  case nil =>
    cases h
    rfl
  case cons c r ih =>
    obtain ⟨t, hn, ht⟩ := Option.bind_eq_some_iff.mp h
    simp [through, hn, ih ht]

end PolySql
