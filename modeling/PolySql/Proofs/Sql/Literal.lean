import PolySql.Proofs.Sql.Quoting
import PolySql.Proofs.Sql.Placeholders

namespace PolySql

-- The text that stands in the literal of a value, if it is a character string on any vendor.
def Value.written? : Value → Option (List Char)
  | .text s => some s.toList
  | .uuid u => some u.text
  | .date x => some x.text
  | .time x => some x.text
  | .timestamp x => some (x.text ' ')
  | .timestampTz x => some (x.text ' ' ++ "+00:00".toList)
  | _ => none

namespace Dialect

open Text

-- What may stand before a character string in a constant.
def stringWords (d : Dialect) : List String :=
  if d.name = "sqlserver" then ["", "N"]
  else if d.name = "sqlite" then [""]
  else ["", "DATE ", "TIME ", "TIMESTAMP ", "TIMESTAMP WITH TIME ZONE "]

-- Reads a character string: what it is, and the rest of the text.
def readString? (d : Dialect) : List Char → Option (List Char × List Char)
  | [] => none
  | c :: r =>
    match d.lexis.first c with
    | .quoted q => if q.kind = .text then q.inside r else none
    | _ => none

-- Reads a constant that is a character string, with the words before it.
def readText? (d : Dialect) (s : List Char) : Option (List Char × List Char) :=
  if d.stringWords.contains (.ofList (s.takeWhile (· ≠ singleQuote))) then
    d.readString? (s.dropWhile (· ≠ singleQuote))
  else none

def isHexDigit (c : Char) : Bool :=
  (hexValue? c).isSome

-- The characters of type names, which are words, on PostgreSQL.
def isTypeChar (c : Char) : Bool :=
  Shape.isLetter c || c.isDigit || c == '$'

-- A cast of hexadecimal digits to `bytea`.
def readCast? (d : Dialect) (s : List Char) : Option (List UInt8 × List Char) := do
  let (text, s) ← d.readString? s
  let digits ← text.dropPrefix? "\\x".toList
  let s ← s.dropPrefix? "::".toList
  if s.takeWhile isTypeChar = "bytea".toList then return (← unhex? digits, s.dropWhile isTypeChar) else none

-- A hexadecimal number, as long as can be.
def readHexNumber? (s : List Char) : Option (List UInt8 × List Char) := do
  let s ← s.dropPrefix? "0x".toList
  return (← unhex? (s.takeWhile isHexDigit), s.dropWhile isHexDigit)

-- A conversion of hexadecimal digits.
def readConversion? (d : Dialect) (s : List Char) : Option (List UInt8 × List Char) := do
  let s ← s.dropPrefix? "HEXTORAW(".toList
  let (digits, s) ← d.readString? s
  return (← unhex? digits, ← s.dropPrefix? ")".toList)

-- Hexadecimal digits in quotes, with a mark before them.
def readMarked? (d : Dialect) (s : List Char) : Option (List UInt8 × List Char) := do
  let s ← s.dropPrefix? "X".toList
  let (digits, s) ← d.readString? s
  return (← unhex? digits, s)

-- Reads a byte string in the form of the vendor.
def readBytes? (d : Dialect) : List Char → Option (List UInt8 × List Char) :=
  if d.name = "postgres" then d.readCast?
  else if d.name = "sqlserver" then readHexNumber?
  else if d.name = "oracle" then d.readConversion?
  else d.readMarked?

-- What may follow a byte string so that it ends there: where no quote ends it, nothing that would continue it.
def EndsBytes (d : Dialect) (t : List Char) : Prop :=
  ∀ c ∈ t.head?, c ≠ singleQuote ∧ (d.name = "postgres" → isTypeChar c = false) ∧
    (d.name = "sqlserver" → isHexDigit c = false)

variable {d : Dialect} {s t : List Char} {w : String} (hd : d ∈ builtins)

theorem readText?_word (hw : w ∈ d.stringWords) (hq : singleQuote ∉ w.toList) (s : List Char) :
    d.readText? (w.toList ++ singleQuote :: s) = d.readString? (singleQuote :: s) := by
  have hall : ∀ c ∈ w.toList, (decide (c ≠ singleQuote)) = true := fun c hc => by
    simpa using fun h : c = singleQuote => hq (h ▸ hc)
  obtain ⟨htake, hdrop⟩ := takeWhile_dropWhile_append (r := singleQuote :: s) hall (by simp)
  rw [readText?, htake, hdrop, String.ofList_toList]
  simp [hw]

include hd

theorem readString?_quoted (hs : d.backslashEscapes = true → '\\' ∉ s) (hr : t.head? ≠ some singleQuote) :
    d.readString? (singleQuoted s ++ t) = some (s, t) := by
  obtain ⟨q, -, hq, hc, hk, he⟩ := exists_textQuote hd
  rw [← hc] at hr
  have h := q.inside_doubled (fun h => hs (he ▸ h)) hr
  rw [hc] at h
  simp [singleQuoted, enclosed, readString?, hq, hk, h]

theorem readString?_escaped (s : List Char) (hr : t.head? ≠ some singleQuote) :
    d.readString? (singleQuoted (if d.backslashEscapes then doubled '\\' s else s) ++ t) = some (s, t) := by
  cases he : d.backslashEscapes
  case false => exact readString?_quoted hd (by simp [he]) hr
  case true =>
    obtain ⟨q, -, hq, hc, hk, hqe⟩ := exists_textQuote hd
    have hb : q.closing ≠ '\\' := by
      rw [hc]
      decide
    rw [← hc] at hr
    have h := q.inside_doubled_escapes (hqe.trans he) hb s hr
    rw [hc] at h
    simp [singleQuoted, enclosed, readString?, hq, hk, h]

theorem readText?_text (s : String) (hr : t.head? ≠ some singleQuote) :
    d.readText? ((d.stringLiteral s).toList ++ t) = some (s.toList, t) := by
  have hm : ∀ d ∈ builtins, d.textMark ∈ d.stringWords ∧ singleQuote ∉ d.textMark.toList := by decide
  rw [stringLiteral, quoted, String.toList_append, String.toList_ofList, List.append_assoc]
  exact (readText?_word (hm d hd).1 (hm d hd).2 _).trans (readString?_escaped hd s.toList hr)

theorem readText?_quoted (hs : '\\' ∉ s) (hr : t.head? ≠ some singleQuote) :
    d.readText? ((quoted s).toList ++ t) = some (s, t) := by
  have hw : ∀ d ∈ builtins, "" ∈ d.stringWords := by decide
  rw [quoted, String.toList_ofList]
  exact (readText?_word (hw d hd) (by decide) _).trans (readString?_quoted hd (fun _ => hs) hr)

theorem readText?_temporal
    (hw : d.typedTemporals = true → w ++ " " ∈ d.stringWords ∧ singleQuote ∉ (w ++ " ").toList)
    (hs : '\\' ∉ s) (hr : t.head? ≠ some singleQuote) :
    d.readText? ((d.temporalLiteral w s).toList ++ t) = some (s, t) := by
  rw [temporalLiteral]
  cases ht : d.typedTemporals
  case false => exact readText?_quoted hd hs hr
  case true =>
    rw [if_pos rfl, quoted, String.toList_append, String.toList_ofList, List.append_assoc]
    exact (readText?_word (hw ht).1 (hw ht).2 _).trans (readString?_quoted hd (fun _ => hs) hr)

theorem readText?_literal (h : v.written? = some s) (hr : t.head? ≠ some singleQuote) :
    d.readText? ((d.literal v).toList ++ t) = some (s, t) := by
  have hw : ∀ d ∈ builtins, ∀ w ∈ ["DATE", "TIME", "TIMESTAMP", d.zonedKeyword], d.typedTemporals = true →
      w ++ " " ∈ d.stringWords ∧ singleQuote ∉ (w ++ " ").toList := by
    decide
  have hw := hw d hd
  simp only [List.forall_mem_cons] at hw
  cases v <;> cases h
  case text s => exact readText?_text hd s hr
  case uuid u => exact readText?_quoted hd u.backslash_not_mem_text hr
  case date x => exact readText?_temporal hd hw.1 x.backslash_not_mem_text hr
  case time x => exact readText?_temporal hd hw.2.1 x.backslash_not_mem_text hr
  case timestamp x => exact readText?_temporal hd hw.2.2.1 (x.backslash_not_mem_text (by decide)) hr
  case timestampTz x =>
    have hx : '\\' ∉ x.text ' ' := x.backslash_not_mem_text (by decide)
    exact readText?_temporal hd hw.2.2.2.1 (by simp [hx]) hr

omit hd in
theorem isHexDigit_of_mem_upperHex (h : c ∈ upperHex b) : isHexDigit c = true := by
  have hdigit : ∀ n < 16, isHexDigit (hexDigit n).toUpper = true := by decide
  obtain ⟨x, hx, rfl⟩ := List.mem_map.mp h
  obtain ⟨n, hn, rfl⟩ := exists_of_mem_hex hx
  exact hdigit n hn

omit hd in
theorem EndsBytes.ne_singleQuote (h : d.EndsBytes t) : t.head? ≠ some singleQuote :=
  fun hc => (h _ hc).1 rfl

theorem readString?_upperHex (b : List UInt8) (hr : t.head? ≠ some singleQuote) :
    d.readString? (singleQuote :: (upperHex b ++ singleQuote :: t)) = some (upperHex b, t) := by
  have hb : '\\' ∉ upperHex b := fun h => nomatch isWordChar_of_mem_upperHex h
  have := readString?_quoted hd (fun _ => hb) hr
  rw [singleQuoted_upperHex] at this
  simpa using this

theorem readMarked?_upperHex (b : List UInt8) (hr : t.head? ≠ some singleQuote) :
    d.readMarked? ("X'".toList ++ upperHex b ++ "'".toList ++ t) = some (b, t) := by
  have h := readString?_upperHex hd b hr
  rw [singleQuote] at h
  simp [readMarked?, List.dropPrefix?, h, unhex?_upperHex]

theorem readConversion?_upperHex (b : List UInt8) (t : List Char) :
    d.readConversion? ("HEXTORAW('".toList ++ upperHex b ++ "')".toList ++ t) = some (b, t) := by
  have h := readString?_upperHex hd b (t := ')' :: t) (by simp [singleQuote])
  rw [singleQuote] at h
  simp [readConversion?, List.dropPrefix?, h, unhex?_upperHex]

omit hd in
theorem readHexNumber?_upperHex (b : List UInt8) (hr : ∀ c ∈ t.head?, isHexDigit c = false) :
    readHexNumber? ("0x".toList ++ upperHex b ++ "".toList ++ t) = some (b, t) := by
  obtain ⟨htake, hdrop⟩ := takeWhile_dropWhile_append (fun _ => isHexDigit_of_mem_upperHex (b := b)) hr
  simp [readHexNumber?, List.dropPrefix?, htake, hdrop, unhex?_upperHex]

theorem readCast?_upperHex (he : d.backslashEscapes = false) (b : List UInt8)
    (hr : ∀ c ∈ t.head?, isTypeChar c = false) :
    d.readCast? ("'\\x".toList ++ upperHex b ++ "'::bytea".toList ++ t) = some (b, t) := by
  have hb : singleQuote ∉ upperHex b := fun h => absurd (isWordChar_of_mem_upperHex h) (by decide)
  have hq : singleQuote ∉ '\\' :: 'x' :: upperHex b := by
    rw [List.mem_cons, List.mem_cons, not_or, not_or]
    exact ⟨by decide, by decide, hb⟩
  have h := readString?_quoted hd (s := '\\' :: 'x' :: upperHex b) (t := "::bytea".toList ++ t)
    (by simp [he]) (by simp [singleQuote])
  rw [singleQuoted, enclosed, doubled_of_not_mem hq, singleQuote] at h
  obtain ⟨htake, hdrop⟩ := takeWhile_dropWhile_append (s := "bytea".toList) (List.all_eq_true.mp rfl) hr
  simp only [String.reduceToList, List.cons_append, List.nil_append, List.append_assoc] at h htake hdrop
  simp [readCast?, List.dropPrefix?, h, htake, hdrop, unhex?_upperHex]

theorem readBytes?_literal (b : List UInt8) (hr : d.EndsBytes t) :
    d.readBytes? ((d.literal (.bytes b)).toList ++ t) = some (b, t) := by
  have hquote := hr.ne_singleQuote
  rw [literal, bytesLiteral, String.toList_append, String.toList_append, String.toList_ofList]
  have hmember := hd
  simp only [builtins, List.mem_cons, List.not_mem_nil, or_false] at hd
  rcases hd with rfl | rfl | rfl | rfl | rfl
  case inl => exact readCast?_upperHex hmember rfl b fun c hc => (hr c hc).2.1 rfl
  case inr.inl => exact readMarked?_upperHex hmember b hquote
  case inr.inr.inl => exact readMarked?_upperHex hmember b hquote
  case inr.inr.inr.inl => exact readHexNumber?_upperHex b fun c hc => (hr c hc).2.2 rfl
  case inr.inr.inr.inr => exact readConversion?_upperHex hmember b t

end Dialect

-- The pieces of a statement that the library writes itself.
inductive Statement.Renders (cx : Context) : Statement → Fragment → Prop
  | select : s.render cx = .ok f → Renders cx (.select s) f
  | insert : i.render cx = .ok f → Renders cx (.insert i) f
  | update : u.render cx = .ok f → Renders cx (.update u) f
  | delete : s.render cx = .ok f → Renders cx (.delete s) f

theorem Statement.Renders.whole (hcx : cx.dialect ∈ Dialect.builtins) (h : Renders cx s f) :
    Fragment.Whole cx.dialect f := by
  cases h
  case select s h => exact s.whole_render cx hcx f h
  case insert i h => exact i.whole_render hcx f h
  case update u h => exact u.whole_render hcx f h
  case delete s h => exact s.whole_render hcx f h

-- Another literal in the place of one leaves the pieces around it apart.

variable {d : Dialect} {i j : Nat} {f g : Fragment} {p q : Piece} {v : Value}

theorem Piece.Seam.before_literal (h : Seam d p (.literal v)) (w : Value) : Seam d p (.literal w) := by
  cases h
  case opening hp => exact .opening hp

theorem Piece.Seam.after_literal (h : Seam d (.literal v) q) (w : Value) : Seam d (.literal w) q := by
  cases h
  case closing hc hb => exact .closing hc hb

theorem Fragment.lexemes_around (p : Piece) :
    Fragment.lexemes d (f ++ p :: g) = f.lexemes d ++ (p.lexemes d ++ g.lexemes d) := by
  simp [lexemes]

variable (hd : d ∈ Dialect.builtins)

include hd

theorem Fragment.nesting_literal (v : Value) (n : Nat) :
    Lexeme.nesting n ((Piece.literal v).lexemes d) = some n := by
  simpa [lexemes] using (Sound.literal hd v n).nesting

theorem Fragment.Sound.replace_literal (h : Sound d i (f ++ .literal v :: g) j) (w : Value) :
    Sound d i (f ++ .literal w :: g) j := by
  obtain ⟨hchain, hplain, hnesting⟩ := h
  obtain ⟨hf, hg, hseam⟩ := List.isChain_append.mp hchain
  obtain ⟨hnext, hg⟩ := List.isChain_cons.mp hg
  refine ⟨List.isChain_append.mpr ⟨hf, List.isChain_cons.mpr ⟨?_, hg⟩, ?_⟩, ?_, ?_⟩
  · exact fun q hq => (hnext q hq).after_literal w
  · rintro p hp _ ⟨⟩
    exact (hseam p hp _ rfl).before_literal w
  · simp only [List.forall_mem_append, List.forall_mem_cons] at hplain ⊢
    exact ⟨hplain.1, trivial, hplain.2.2⟩
  · simpa only [lexemes_around, Lexeme.nesting_append, nesting_literal hd, Option.bind_some] using hnesting

namespace Dialect

-- Between boundaries the tokens of a literal are its own.
theorem exists_tokens_literal (v : Value) : ∃ ts, ∀ a b, d.lexis.shape? a = some .symbol →
    (∀ c ∈ b.head?, c ∈ boundaries) → d.lexis.tokens (a ++ ((d.literal v).toList ++ b)) = do
      return (← d.lexis.tokens a) ++ (ts ++ (← d.lexis.tokens b)) := by
  obtain ⟨_, hs, -⟩ := constant_literal hd v
  obtain ⟨ts, ht, -⟩ := Option.map_eq_some_iff.mp hs
  refine ⟨ts, fun a b ha hb => ?_⟩
  rw [Lexis.tokens_append (.of_symbol ha), Lexis.tokens_append (.of_boundary ht hb), ht]
  simp [Option.bind_assoc]

-- A literal ends where it should and gives the value back, whatever comes after it but what would continue it.
-- Another one in its place leaves the lexemes around it as they are, in a statement that the library writes and
-- in any other text.
theorem read_literal :
    (∀ v s t, v.written? = some s → t.head? ≠ some Text.singleQuote →
      d.readText? ((d.literal v).toList ++ t) = some (s, t)) ∧
    (∀ b t, d.EndsBytes t → d.readBytes? ((d.literal (.bytes b)).toList ++ t) = some (b, t)) ∧
    (∀ cx : Context, cx.dialect = d → ∀ s f v g, Statement.Renders cx s (f ++ .literal v :: g) → ∀ w,
      let changed : Fragment := f ++ .literal w :: g
      d.read 0 (changed.text d 0) changed.params =
        some (Fragment.lexemes d f ++ ((Piece.literal w).lexemes d ++ Fragment.lexemes d g))) ∧
    (∀ v, ∃ ts, ∀ a b, d.lexis.shape? a = some .symbol → (∀ c ∈ b.head?, c ∈ boundaries) →
      d.lexis.tokens (a ++ ((d.literal v).toList ++ b)) = do
        return (← d.lexis.tokens a) ++ (ts ++ (← d.lexis.tokens b))) := by
  refine ⟨fun v s t => readText?_literal hd, fun b t => readBytes?_literal hd b, ?_, exists_tokens_literal hd⟩
  rintro cx rfl s f v g h w changed
  rw [Fragment.read_text hd ((h.whole hd).replace_literal hd w), Fragment.lexemes_around]

omit hd in
theorem read_quotes_and_bytes :
    mySql.readText? ("'it''s \\\\'".toList ++ ", 1".toList) = some ("it's \\".toList, ", 1".toList) ∧
      mySql.readBytes? ("X'DE01'".toList ++ ", 1".toList) = some ([0xDE, 0x01], ", 1".toList) := by
  obtain ⟨htext, hbytes, -, -⟩ := read_literal (d := mySql) (by simp [builtins])
  have hliteral : mySql.literal (.text "it's \\") = "'it''s \\\\'" ∧
      mySql.literal (.bytes [0xDE, 0x01]) = "X'DE01'" := by
    decide
  have htext := htext (.text "it's \\") _ ", 1".toList rfl (by decide)
  have hbytes := hbytes [0xDE, 0x01] ", 1".toList (by rintro _ ⟨⟩; decide)
  rw [hliteral.1] at htext
  rw [hliteral.2] at hbytes
  exact ⟨htext, hbytes⟩

-- On SQL Server a byte string is a number, which goes on into the digits of the text after it, and on PostgreSQL
-- the name of its type may go on.
omit hd in
theorem not_read_before_digits :
    sqlServer.readBytes? ((sqlServer.literal (.bytes [0xDE])).toList ++ "AB".toList) = some ([0xDE, 0xAB], []) ∧
      postgres.readBytes? ((postgres.literal (.bytes [0xDE])).toList ++ "AB".toList) = none ∧
      "AB".toList.head? ≠ some Text.singleQuote := by
  decide

end Dialect

end PolySql
