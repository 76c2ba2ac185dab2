import PolySql.Proofs.Column.RoundTrip
import PolySql.Proofs.Sql.Outcome
import PolySql.Schema.Rows

namespace PolySql

namespace Text

-- A whole number in digits, with or without a sign.
inductive SignedNumeral : List Char → Int → Prop
  | unsigned (hne : digits ≠ []) (h : ∀ c ∈ digits, c.isDigit = true) : SignedNumeral digits (toNat digits)
  | plus (hne : digits ≠ []) (h : ∀ c ∈ digits, c.isDigit = true) : SignedNumeral ('+' :: digits) (toNat digits)
  | minus (hne : digits ≠ []) (h : ∀ c ∈ digits, c.isDigit = true) : SignedNumeral ('-' :: digits) (-toNat digits)

variable {s a b : List Char} {i : Int}

theorem integer?_eq_some : integer? s = some i ↔ SignedNumeral s i := by
  constructor
  case mp =>
    intro h
    rw [integer?.eq_def] at h
    split at h
    all_goals
      obtain ⟨_, hcast, rfl⟩ := Option.map_eq_some_iff.mp h
      obtain ⟨n, hn, ⟨⟩⟩ := Option.bind_eq_some_iff.mp hcast
      obtain ⟨hne, hdigits, rfl⟩ := natural?_eq_some.mp hn
    case h_1 => exact .minus hne hdigits
    case h_2 => exact .plus hne hdigits
    case h_3 => exact .unsigned hne hdigits
  case mpr =>
    rintro (⟨hne, hdigits⟩ | ⟨hne, hdigits⟩ | ⟨hne, hdigits⟩)
    case plus | minus => simp [integer?, natural?_eq_some.mpr ⟨hne, hdigits, rfl⟩]
    case unsigned =>
      obtain ⟨c, r, rfl⟩ := List.exists_cons_of_ne_nil hne
      have hc := hdigits c List.mem_cons_self
      have hminus : c ≠ '-' := ne_of_isDigit hc rfl
      have hplus : c ≠ '+' := ne_of_isDigit hc rfl
      simp [integer?, hminus, hplus, natural?_eq_some.mpr ⟨hne, hdigits, rfl⟩]

theorem SignedNumeral.isBlank_of_mem (h : SignedNumeral s i) (hc : c ∈ s) : isBlank c = false := by
  have hsign : isBlank '+' = false ∧ isBlank '-' = false := by decide
  cases h
  case unsigned _ h => exact isBlank_of_isDigit (h c hc)
  case plus _ h =>
    rcases List.mem_cons.mp hc with rfl | hc
    · exact hsign.1
    · exact isBlank_of_isDigit (h c hc)
  case minus _ h =>
    rcases List.mem_cons.mp hc with rfl | hc
    · exact hsign.2
    · exact isBlank_of_isDigit (h c hc)

theorem trimStart_append (ha : ∀ c ∈ a, isBlank c = true) : trimStart (a ++ s) = trimStart s := by
  rw [trimStart, List.dropWhile_append_of_pos ha, trimStart]

theorem trimEnd_append (hb : ∀ c ∈ b, isBlank c = true) : trimEnd (s ++ b) = trimEnd s := by
  have hb : ∀ c ∈ b.reverse, isBlank c = true := fun c hc => hb c (List.mem_reverse.mp hc)
  rw [trimEnd, List.reverse_append, ← trimStart, trimStart_append hb, trimStart, trimEnd]

-- Trimming takes blanks off both ends, and all of them.
theorem trim_eq_iff (h : ∀ c ∈ s, isBlank c = false) : trim t = s ↔
    ∃ a b, (∀ c ∈ a, isBlank c = true) ∧ (∀ c ∈ b, isBlank c = true) ∧ t = a ++ s ++ b := by
  constructor
  case mp =>
    rintro rfl
    refine ⟨t.takeWhile isBlank, ((trimStart t).reverse.takeWhile isBlank).reverse, ?_, ?_, ?_⟩
    case refine_1 => exact fun c hc => List.mem_takeWhile_imp hc
    case refine_2 => exact fun c hc => List.mem_takeWhile_imp (List.mem_reverse.mp hc)
    case refine_3 =>
      rw [trim, trimEnd, List.append_assoc, ← List.reverse_append, List.takeWhile_append_dropWhile,
        List.reverse_reverse, trimStart, List.takeWhile_append_dropWhile]
  case mpr =>
    rintro ⟨a, b, ha, hb, rfl⟩
    have hinner : trim s = s := trim_of_forall h
    cases s
    case nil =>
      rw [List.append_nil, trim, trimStart_append ha, trimStart, List.dropWhile_eq_nil_iff.mpr hb]
      rfl
    case cons c s =>
      have hhead : ∀ x ∈ (c :: s ++ b).head?, isBlank x = false := by simpa using h c List.mem_cons_self
      rw [trim, List.append_assoc, trimStart_append ha, trimStart_eq_self hhead, trimEnd_append hb]
      exact trimEnd_eq_self fun x hx => h x (List.mem_of_getLast? hx)

end Text

namespace Value

-- A name in a catalog's answer. Some vendors number what others name.
inductive Names : Value → String → Prop
  | text (s : String) : Names (.text s) s
  | number (i : Int64) : Names (.int i) (String.ofList (Text.ofInt i.toInt))

-- The whole number that is meant by a number of any kind: as such, as a decimal, of which the places do not count, or
-- as text, with blanks around it or without.
inductive Counts : Value → Int → Prop
  | int (i : Int64) : Counts (.int i) i.toInt
  | decimal (d : Decimal) : Counts (.decimal d) d.truncated
  | text (ha : ∀ c ∈ a, Text.isBlank c = true) (hs : Text.SignedNumeral s n) (hb : ∀ c ∈ b, Text.isBlank c = true) :
    Counts (.text (String.ofList (a ++ s ++ b))) n

-- The truth value of an answer: as such, or as a number of 64 bits that is not zero.
inductive Flags : Value → Bool → Prop
  | bool (b : Bool) : Flags (.bool b) b
  | number (hv : Counts v n) (hlow : -2 ^ 63 ≤ n) (hhigh : n < 2 ^ 63) : Flags v (decide (n ≠ 0))

end Value

theorem int64?_eq_some {i : Int} {x : Int64} : int64? i = some x ↔ -2 ^ 63 ≤ i ∧ i < 2 ^ 63 ∧ x.toInt = i := by
  have htwo : (twoTo 63 : Int) = 2 ^ 63 := rfl
  rw [int64?, htwo]
  split
  case isTrue h =>
    have hi : (Int64.ofInt i).toInt = i := Int64.toInt_ofInt_of_le h.1 h.2
    rw [Option.some_inj]
    constructor
    case mp =>
      rintro rfl
      exact ⟨h.1, h.2, hi⟩
    case mpr =>
      rintro ⟨-, -, rfl⟩
      exact Int64.ofInt_toInt x
  case isFalse h => simpa using fun hlow hhigh => absurd ⟨hlow, hhigh⟩ h

namespace Cells

variable {v : Value} {s : String} {b : Bool} {row : Cells} {i : Nat} {what : String}

theorem text?_eq_some : text? v = some s ↔ v.Names s := by
  constructor
  case mp =>
    intro h
    cases v
    case text s =>
      cases h
      exact .text s
    case int n =>
      cases h
      exact .number n
    all_goals nomatch h
  case mpr => rintro (_ | _) <;> rfl

theorem map_int64?_eq_some {n : Int} :
    (int64? n).map (· != 0) = some b ↔ -2 ^ 63 ≤ n ∧ n < 2 ^ 63 ∧ b = decide (n ≠ 0) := by
  have hzero (x : Int64) : (x != 0) = decide (x.toInt ≠ 0) := by
    have hx : x = 0 ↔ x.toInt = 0 := by rw [← Int64.toInt_inj, Int64.toInt_zero]
    by_cases h : x = 0
    case pos => simp [h]
    case neg => simp [h, mt hx.mpr h]
  rw [Option.map_eq_some_iff]
  constructor
  case mp =>
    rintro ⟨x, hx, rfl⟩
    obtain ⟨hlow, hhigh, rfl⟩ := int64?_eq_some.mp hx
    exact ⟨hlow, hhigh, hzero x⟩
  case mpr =>
    rintro ⟨hlow, hhigh, rfl⟩
    have hn : (Int64.ofInt n).toInt = n := Int64.toInt_ofInt_of_le hlow hhigh
    exact ⟨_, int64?_eq_some.mpr ⟨hlow, hhigh, hn⟩, by rw [hzero, hn]⟩

theorem flag?_eq_some : flag? v = some b ↔ v.Flags b := by
  constructor
  case mp =>
    intro h
    cases v
    case bool x =>
      cases h
      exact .bool _
    case int x =>
      have h : (int64? x.toInt).map (· != 0) = some b := by
        rw [int64?_toInt]
        exact h
      obtain ⟨hlow, hhigh, rfl⟩ := map_int64?_eq_some.mp h
      exact .number (.int x) hlow hhigh
    case decimal d =>
      obtain ⟨hlow, hhigh, rfl⟩ := map_int64?_eq_some.mp h
      exact .number (.decimal d) hlow hhigh
    case text t =>
      rw [flag?, Option.map_bind] at h
      obtain ⟨n, hn, h⟩ := Option.bind_eq_some_iff.mp h
      obtain ⟨hlow, hhigh, rfl⟩ := map_int64?_eq_some.mp h
      have hnumeral := Text.integer?_eq_some.mp hn
      obtain ⟨before, after, hbefore, hafter, ht⟩ := (Text.trim_eq_iff fun _ => hnumeral.isBlank_of_mem).mp rfl
      rw [← String.ofList_toList (s := t), ht]
      exact .number (.text hbefore hnumeral hafter) hlow hhigh
    all_goals nomatch h
  case mpr =>
    rintro (_ | ⟨hv, hlow, hhigh⟩)
    case bool => rfl
    case number =>
      cases hv
      case int x =>
        have h := map_int64?_eq_some.mpr ⟨hlow, hhigh, rfl⟩
        rwa [int64?_toInt] at h
      case decimal d => exact map_int64?_eq_some.mpr ⟨hlow, hhigh, rfl⟩
      case text hbefore hafter hnumeral =>
        have htrim := (Text.trim_eq_iff fun _ => hnumeral.isBlank_of_mem).mpr ⟨_, _, hbefore, hafter, rfl⟩
        rw [flag?, String.toList_ofList, htrim, Text.integer?_eq_some.mpr hnumeral, Option.bind_some]
        exact map_int64?_eq_some.mpr ⟨hlow, hhigh, rfl⟩

-- The row has the name at the position.
def Says (row : Cells) (i : Nat) (s : String) : Prop :=
  ∃ v, row[i]? = some v ∧ v.Names s

-- The row has the truth value at the position.
def Marks (row : Cells) (i : Nat) (b : Bool) : Prop :=
  ∃ v, row[i]? = some v ∧ v.Flags b

-- The row is too short for a name at the position, or has something else there.
def Lacks (row : Cells) (i : Nat) : Prop :=
  ∀ v ∈ row[i]?, v.kind? ≠ some .text ∧ v.kind? ≠ some .int

theorem orMalformed_eq_ok {α : Type} {o : Option α} {a : α} : orMalformed what row o = .ok a ↔ o = some a := by
  cases o <;> simp [orMalformed, malformed]

theorem text_eq_ok : row.text i what = .ok s ↔ row.Says i s := by
  simp only [text, orMalformed_eq_ok, Option.bind_eq_some_iff, text?_eq_some, Says]

theorem flag_eq_ok : row.flag i what = .ok b ↔ row.Marks i b := by
  simp only [flag, orMalformed_eq_ok, Option.bind_eq_some_iff, flag?_eq_some, Marks]

theorem Lacks.unsaid (h : row.Lacks i) (s : String) : ¬row.Says i s := by
  rintro ⟨v, hv, hs⟩
  obtain ⟨htext, hint⟩ := h v hv
  cases hs
  case text => exact htext rfl
  case number => exact hint rfl

end Cells

end PolySql
