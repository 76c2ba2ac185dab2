import Mathlib.Data.List.TakeWhile
import PolySql.Number.DecimalText
import PolySql.Proofs.Text.Reading
import PolySql.Uuid

namespace PolySql

namespace Decimal

-- Zero has no sign; all other decimals keep theirs.
def unsignedZero (d : Decimal) : Decimal :=
  { d with negative := d.negative && d.coefficient != 0 }

-- A sign, the whole part and the places are in the text as they are written.
theorem exists_digits (d : Decimal) : ∃ whole places : List Char,
    d.text = (if d.negative then ['-'] else []) ++ (whole ++ if d.scale = 0 then [] else '.' :: places) ∧
    (∀ c ∈ whole, c.isDigit = true) ∧ (∀ c ∈ places, c.isDigit = true) ∧ whole ≠ [] ∧
    places.length = d.scale ∧ Text.toNat (whole ++ places) = d.coefficient := by
  let digits := Text.padded (d.scale + 1) d.coefficient
  have hdigits : ∀ c ∈ digits, c.isDigit = true := fun _ => Text.isDigit_of_mem_padded
  have hlength : d.scale + 1 ≤ digits.length := Text.le_length_padded _ _
  refine ⟨digits.take (digits.length - d.scale), digits.drop (digits.length - d.scale), List.append_assoc ..,
    fun c hc => hdigits c (List.mem_of_mem_take hc), fun c hc => hdigits c (List.mem_of_mem_drop hc), ?_, ?_, ?_⟩
  · intro h
    have := congrArg List.length h
    simp at this
    omega
  · simp
    omega
  · rw [List.take_append_drop]
    exact Text.toNat_padded _ _

theorem forall_mem_text {p : Char → Prop} (hdigit : ∀ c, c.isDigit = true → p c) (hminus : p '-')
    (hpoint : p '.') (d : Decimal) : ∀ c ∈ d.text, p c := by
  obtain ⟨whole, places, htext, hwhole, hplaces, -⟩ := d.exists_digits
  have hwhole : ∀ c ∈ whole, p c := fun c hc => hdigit c (hwhole c hc)
  have hplaces : ∀ c ∈ places, p c := fun c hc => hdigit c (hplaces c hc)
  rw [htext]
  simp only [List.forall_mem_append]
  refine ⟨?_, hwhole, ?_⟩
  · split
    · exact List.forall_mem_singleton.mpr hminus
    · nofun
  · split
    · nofun
    · exact List.forall_mem_cons.mpr ⟨hpoint, hplaces⟩

end Decimal

namespace DecimalText

open Text

variable {negative : Bool} {p : Progress} {ds r s : List Char}

-- Digits are read one after the other as long as the coefficient and the places fit.
theorem digits?_append (hds : ∀ c ∈ ds, c.isDigit = true) (hfits : Nat.ofDigitChars 10 ds p.coefficient < twoTo 96)
    (hscale : if p.pastPoint then p.scale + ds.length ≤ 28 else p.scale = 0) :
    digits? negative p (ds ++ r) = digits? negative
      ⟨Nat.ofDigitChars 10 ds p.coefficient, if p.pastPoint then p.scale + ds.length else 0, p.pastPoint,
        p.anyDigit || !ds.isEmpty⟩ r := by
  induction ds generalizing p
  case nil =>
    obtain ⟨coefficient, scale, pastPoint, anyDigit⟩ := p
    cases pastPoint <;> simp_all
  case cons c ds ih =>
    rw [List.forall_mem_cons] at hds
    rw [Nat.ofDigitChars_cons] at hfits
    have hstep : 10 * p.coefficient + (c.toNat - '0'.toNat) < twoTo 96 :=
      Nat.lt_of_le_of_lt (le_ofDigitChars ds _) hfits
    have hroom : (p.pastPoint && p.scale == 28 && p.anyDigit) = false := by
      cases hp : p.pastPoint
      case false => rfl
      case true =>
        rw [if_pos hp, List.length_cons] at hscale
        have : p.scale ≠ 28 := by omega
        simp [this]
    rw [List.cons_append, digits?, hroom, if_neg (by decide), if_pos hds.1]
    dsimp only
    rw [if_pos hstep, ih hds.2 hfits]
    · cases p.pastPoint
      case false => simp [Nat.ofDigitChars_cons]
      case true => simp [Nat.ofDigitChars_cons, Nat.add_assoc, Nat.add_comm 1]
    · cases hp : p.pastPoint
      case false => rfl
      case true =>
        rw [if_pos hp, List.length_cons] at hscale
        simp only [if_true]
        omega

theorem digits?_done (h : p.anyDigit = true) : digits? negative p [] = Decimal.read negative p.coefficient p.scale := by
  rw [digits?, if_pos h]

theorem digits?_point (h : p.pastPoint = false) :
    digits? negative p ('.' :: r) = digits? negative { p with pastPoint := true } r := by
  rw [digits?, h]
  simp

theorem plain?_of_isDigit {c : Char} (h : c.isDigit = true) : plain? (c :: r) = digits? false .start (c :: r) := by
  have hminus : c ≠ '-' := ne_of_isDigit h rfl
  have hplus : c ≠ '+' := ne_of_isDigit h rfl
  rw [plain?]
  all_goals simp [hminus, hplus]

-- A whole number, or one with a point before its last places.
theorem digits?_decimal {whole places : List Char} (d : Decimal) (negative : Bool)
    (hwhole : ∀ c ∈ whole, c.isDigit = true) (hplaces : ∀ c ∈ places, c.isDigit = true) (hne : whole ≠ [])
    (hscale : places.length = d.scale) (hvalue : toNat (whole ++ places) = d.coefficient) :
    digits? negative .start (whole ++ if d.scale = 0 then [] else '.' :: places) =
      Decimal.read negative d.coefficient d.scale := by
  have hcoefficient : Nat.ofDigitChars 10 places (toNat whole) = d.coefficient :=
    (Nat.ofDigitChars_append 0).symm.trans hvalue
  have hfits : toNat whole < twoTo 96 :=
    Nat.lt_of_le_of_lt (le_ofDigitChars places _) (hcoefficient ▸ d.coefficient_lt)
  have hstart (r : List Char) : digits? negative .start (whole ++ r) = digits? negative ⟨toNat whole, 0, false, true⟩ r := by
    have hany : whole.isEmpty = false := by simpa using hne
    simpa [Progress.start, Text.toNat, hany] using digits?_append (p := .start) (r := r) hwhole hfits rfl
  rw [hstart]
  split
  case isTrue h =>
    rw [h, List.length_eq_zero_iff] at hscale
    rw [hscale, List.append_nil] at hvalue
    rw [digits?_done rfl, h, hvalue]
  case isFalse h =>
    have hplaced : digits? negative ⟨toNat whole, 0, true, true⟩ (places ++ []) = _ :=
      digits?_append hplaces (hcoefficient ▸ d.coefficient_lt) (by simpa [hscale] using d.scale_le)
    rw [List.append_nil] at hplaced
    rw [digits?_point rfl, hplaced, digits?_done rfl]
    simp [hcoefficient, hscale]

theorem read?_of_isDigit (hs : ∀ c ∈ s, c.isDigit = true ∨ c = '-' ∨ c = '.') : read? s = plain? s := by
  have hmark : s.dropWhile (!isExponentMark ·) = [] := by
    rw [List.dropWhile_eq_nil_iff]
    intro c hc
    rcases hs c hc with h | rfl | rfl
    case inl =>
      have hlower : c ≠ 'e' := ne_of_isDigit h rfl
      have hupper : c ≠ 'E' := ne_of_isDigit h rfl
      simp [isExponentMark, hlower, hupper]
    all_goals rfl
  rw [read?, hmark]

-- The text of a decimal reads as the decimal itself.
theorem read?_text (d : Decimal) : read? (trim d.text) = some d.unsignedZero := by
  obtain ⟨whole, places, htext, hwhole, hplaces, hne, hscale, hvalue⟩ := d.exists_digits
  have hbody (negative : Bool) := digits?_decimal d negative hwhole hplaces hne hscale hvalue
  have hread : Decimal.read d.negative d.coefficient d.scale = some d.unsignedZero := by
    rw [Decimal.read, Decimal.make?, dif_pos ⟨d.coefficient_lt, d.scale_le⟩]
    rfl
  have hblank := d.forall_mem_text (p := fun c => isBlank c = false) (fun _ => isBlank_of_isDigit) rfl rfl
  have hchars := d.forall_mem_text (p := fun c => c.isDigit = true ∨ c = '-' ∨ c = '.') (fun _ => .inl)
    (.inr (.inl rfl)) (.inr (.inr rfl))
  rw [trim_of_forall hblank, read?_of_isDigit hchars, htext, ← hread]
  cases d.negative
  case true => exact hbody true
  case false =>
    obtain ⟨c, r, rfl⟩ := List.exists_cons_of_ne_nil hne
    rw [if_neg (by decide), List.nil_append, ← hbody, List.cons_append]
    exact plain?_of_isDigit (hwhole c List.mem_cons_self)

end DecimalText

namespace Uuid

open Text

theorem forall_mem_text {p : Char → Prop} (hdigit : ∀ n < 16, p (hexDigit n)) (hminus : p '-') (u : Uuid) :
    ∀ c ∈ u.text, p c := by
  have hhex : ∀ c ∈ hex u.octets, p c := by
    intro c hc
    obtain ⟨n, hn, rfl⟩ := exists_of_mem_hex hc
    exact hdigit n hn
  have hdrop (n : Nat) : ∀ c ∈ (hex u.octets).drop n, p c := fun c hc => hhex c (List.mem_of_mem_drop hc)
  have htake (n m : Nat) : ∀ c ∈ ((hex u.octets).drop n).take m, p c := fun c hc => hdrop n c (List.mem_of_mem_take hc)
  simp only [text, List.forall_mem_append, List.forall_mem_cons]
  exact ⟨⟨⟨⟨htake 0 8, hminus, htake 8 4⟩, hminus, htake 12 4⟩, hminus, htake 16 4⟩, hminus, hdrop 20⟩

theorem length_hex_octets (u : Uuid) : (hex u.octets).length = 32 := by
  rw [length_hex, u.length_octets]

theorem ofHex?_hex (u : Uuid) : ofHex? (hex u.octets) = some u := by
  rw [ofHex?, unhex?_hex]
  exact dif_pos u.length_octets

-- Groups of the digits with hyphens between them.
theorem hyphenated?_groups {a b c d e : List Char} (ha : a.length = 8) (hb : b.length = 4) (hc : c.length = 4)
    (hd : d.length = 4) (he : e.length = 12) :
    hyphenated? (a ++ '-' :: b ++ '-' :: c ++ '-' :: d ++ '-' :: e) = ofHex? (a ++ b ++ c ++ d ++ e) := by
  have hnil {s : List Char} {n m : Nat} (hs : s.length = m) (h : m ≤ n) : s.drop n = [] :=
    List.drop_of_length_le (hs ▸ h)
  simp [hyphenated?, List.drop_append, *]

-- The text of an identifier reads as the identifier itself.
theorem read?_text (u : Uuid) : read? (trim u.text) = some u := by
  have h := u.length_hex_octets
  have hblank := u.forall_mem_text (p := fun c => isBlank c = false) (by decide) rfl
  have hlength : u.text.length = 36 := by simp [text, h]
  have hgroups : hyphenated? u.text = ofHex? (hex u.octets) := by
    have hstep (n : Nat) : ((hex u.octets).drop n).take 4 ++ (hex u.octets).drop (n + 4) = (hex u.octets).drop n := by
      rw [← List.drop_drop, List.take_append_drop]
    refine (hyphenated?_groups ?_ ?_ ?_ ?_ ?_).trans (congrArg ofHex? ?_)
    case refine_6 =>
      simp only [List.append_assoc]
      rw [hstep 16, hstep 12, hstep 8, List.take_append_drop]
    all_goals simp [h]
  rw [trim_of_forall hblank, read?, hlength, if_neg (by decide), if_neg (by omega), if_neg (by omega), hgroups, ofHex?_hex]

end Uuid

end PolySql
