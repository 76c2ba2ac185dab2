import Mathlib.Algebra.Ring.Nat
import PolySql.Text.Character
import PolySql.Text.Digits

namespace PolySql.Text

variable {a b ds r s : List Char} {c : Char} {n w : Nat}

theorem takeWhile_dropWhile_append {p : Char → Bool} (hs : ∀ c ∈ s, p c = true) (hr : ∀ c ∈ r.head?, p c = false) :
    (s ++ r).takeWhile p = s ∧ (s ++ r).dropWhile p = r := by
  rw [List.takeWhile_append_of_pos hs, List.dropWhile_append_of_pos hs]
  cases r
  case nil => simp
  case cons c r => simp [hr c rfl]

theorem trimEnd_eq_self (h : ∀ c ∈ s.getLast?, isBlank c = false) : trimEnd s = s := by
  rw [trimEnd, ← trimStart, trimStart_eq_self (by rwa [List.head?_reverse]), List.reverse_reverse]

theorem trim_eq_self (hhead : ∀ c ∈ s.head?, isBlank c = false) (hlast : ∀ c ∈ s.getLast?, isBlank c = false) :
    trim s = s := by
  rw [trim, trimStart_eq_self hhead, trimEnd_eq_self hlast]

theorem trim_of_forall (h : ∀ c ∈ s, isBlank c = false) : trim s = s :=
  trim_eq_self (fun c hc => h c (List.mem_of_head? hc)) fun c hc => h c (List.mem_of_getLast? hc)

-- What stands in the middle may be blank.
theorem trim_between (ha : ∀ c ∈ a, isBlank c = false) (hb : ∀ c ∈ b, isBlank c = false) (hane : a ≠ [])
    (hbne : b ≠ []) (m : List Char) : trim (a ++ m ++ b) = a ++ m ++ b := by
  refine trim_eq_self (fun c hc => ha c ?_) fun c hc => hb c ?_
  · rw [List.append_assoc, List.head?_append, List.head?_eq_some_head hane, Option.some_or] at hc
    exact Option.mem_some.mp hc ▸ List.head_mem hane
  · rw [List.getLast?_append, List.getLast?_eq_some_getLast hbne, Option.some_or] at hc
    exact Option.mem_some.mp hc ▸ List.getLast_mem hbne

theorem isBlank_of_isDigit (h : c.isDigit = true) : isBlank c = false := by
  simp only [Char.isDigit, Bool.and_eq_true, decide_eq_true_eq, UInt32.le_iff_toNat_le] at h
  have hval : c.toNat = c.val.toNat := rfl
  simp only [isBlank, Bool.or_eq_false_iff, Bool.and_eq_false_iff, decide_eq_false_iff_not, beq_eq_false_iff_ne]
  simp at h
  omega

theorem ne_of_isDigit {x : Char} (h : c.isDigit = true) (hx : x.isDigit = false) : c ≠ x := by
  rintro rfl
  cases h.symm.trans hx

theorem isDigit_of_mem_ofNat (h : c ∈ ofNat n) : c.isDigit = true :=
  Nat.isDigit_of_mem_toDigits (by decide) (by decide) h

theorem natural?_eq_some : natural? s = some n ↔ s ≠ [] ∧ (∀ c ∈ s, c.isDigit = true) ∧ n = toNat s := by
  rw [natural?]
  split
  case isTrue h =>
    simp only [Bool.and_eq_true, Bool.not_eq_true', List.isEmpty_eq_false_iff, List.all_eq_true] at h
    rw [Option.some_inj]
    exact ⟨fun hn => ⟨h.1, h.2, hn.symm⟩, fun hn => hn.2.2.symm⟩
  case isFalse h =>
    simp only [Bool.and_eq_true, Bool.not_eq_true', List.isEmpty_eq_false_iff, List.all_eq_true] at h
    simp only [reduceCtorEq, false_iff]
    exact fun hs => h ⟨hs.1, hs.2.1⟩

theorem ofNat_ne_nil (n : Nat) : ofNat n ≠ [] :=
  Nat.toDigits_ne_nil

theorem isDigit_of_mem_padded (h : c ∈ padded w n) : c.isDigit = true := by
  rcases List.mem_append.mp h with h | h
  case inl =>
    rw [List.eq_of_mem_replicate h]
    rfl
  case inr => exact isDigit_of_mem_ofNat h

theorem le_length_padded (w n : Nat) : w ≤ (padded w n).length := by
  simp [padded]
  omega

theorem length_padded (hw : 0 < w) (h : n < 10 ^ w) : (padded w n).length = w := by
  have hl : (ofNat n).length ≤ w := (Nat.length_toDigits_le_iff (by decide) hw).mpr h
  simp [padded]
  omega

theorem exists_padded_eq_cons (hw : 0 < w) (n : Nat) : ∃ c t, padded w n = c :: t ∧ c.isDigit = true := by
  have hl : 0 < (padded w n).length := Nat.lt_of_lt_of_le hw (le_length_padded w n)
  obtain ⟨c, t, hp⟩ := List.exists_cons_of_ne_nil (List.ne_nil_of_length_pos hl)
  exact ⟨c, t, hp, isDigit_of_mem_padded (hp ▸ List.mem_cons_self)⟩

theorem trimStart_padded (hw : 0 < w) (n : Nat) (r : List Char) : trimStart (padded w n ++ r) = padded w n ++ r := by
  obtain ⟨c, t, hp, hc⟩ := exists_padded_eq_cons hw n
  rw [hp, List.cons_append]
  exact trimStart_eq_self (by simpa using isBlank_of_isDigit hc)

theorem toNat_append (ds es : List Char) : toNat (ds ++ es) = toNat ds * 10 ^ es.length + toNat es := by
  rw [toNat, Nat.ofDigitChars_append, Nat.ofDigitChars_eq_ofDigitChars_zero, Nat.mul_comm]
  rfl

theorem toNat_replicate_zero (k : Nat) : toNat (List.replicate k '0') = 0 := by
  induction k
  case zero => rfl
  case succ k ih =>
    rw [List.replicate_succ, toNat, Nat.ofDigitChars_cons]
    exact ih

theorem toNat_padded (w n : Nat) : toNat (padded w n) = n := by
  rw [padded, toNat_append, toNat_replicate_zero, toNat_ofNat, Nat.zero_mul, Nat.zero_add]

theorem le_ofDigitChars (ds : List Char) (n : Nat) : n ≤ Nat.ofDigitChars 10 ds n := by
  rw [Nat.ofDigitChars_eq_ofDigitChars_zero]
  exact Nat.le_trans (Nat.le_mul_of_pos_left n (Nat.pow_pos (by decide))) (Nat.le_add_right _ _)

-- The number ends where no more digits are wanted, or where no digit follows.
theorem takeNatural?_digits {least most : Nat} (hds : ∀ c ∈ ds, c.isDigit = true) (hleast : least ≤ ds.length)
    (hmost : ds.length ≤ most) (hr : ds.length = most ∨ ∀ c ∈ r.head?, c.isDigit = false) :
    takeNatural? least most (ds ++ r) = some (toNat ds, r) := by
  have htake : ((ds ++ r).take most).takeWhile Char.isDigit = ds := by
    rw [List.take_append, List.take_of_length_le hmost]
    refine (takeWhile_dropWhile_append hds fun c hc => ?_).1
    rcases hr with hr | hr
    case inl => simp [hr] at hc
    case inr =>
      refine hr c ?_
      rw [List.head?_take] at hc
      split at hc
      case isTrue => cases hc
      case isFalse => exact hc
  rw [takeNatural?, htake]
  simp [hleast]

theorem takeNatural?_padded {least : Nat} (hw : 0 < w) (h : n < 10 ^ w) (hleast : least ≤ w) (r : List Char) :
    takeNatural? least w (padded w n ++ r) = some (n, r) := by
  have hl := length_padded hw h
  rw [takeNatural?_digits (fun _ => isDigit_of_mem_padded) (by omega) (by omega) (.inl hl), toNat_padded]

theorem takeNatural?_eq_none {least most : Nat} (h : 0 < least) (hs : ∀ c ∈ s.head?, c.isDigit = false) :
    takeNatural? least most s = none := by
  have htake : (s.take most).takeWhile Char.isDigit = [] := by
    cases s
    case nil => simp
    case cons c s => cases most <;> simp [hs c rfl]
  simp [takeNatural?, htake, h]

theorem exists_of_mem_hex {bytes : List UInt8} (h : c ∈ hex bytes) : ∃ n < 16, c = hexDigit n := by
  simp only [hex, List.mem_flatMap, List.mem_cons, List.not_mem_nil, or_false] at h
  obtain ⟨x, -, rfl | rfl⟩ := h
  · exact ⟨_, by have := x.toNat_lt; omega, rfl⟩
  · exact ⟨_, Nat.mod_lt _ (by decide), rfl⟩

-- Both cases of the digits are read.
theorem unhex?_flatMap {digit : Nat → Char} (hdigit : ∀ n < 16, hexValue? (digit n) = some n) (bytes : List UInt8) :
    unhex? (bytes.flatMap fun x => [digit (x.toNat / 16), digit (x.toNat % 16)]) = some bytes := by
  induction bytes
  case nil => rfl
  case cons x bytes ih =>
    have hhigh := hdigit (x.toNat / 16) (by have := x.toNat_lt; omega)
    have hlow := hdigit (x.toNat % 16) (Nat.mod_lt _ (by decide))
    simp only [List.flatMap_cons, List.cons_append, List.nil_append, unhex?, hhigh, hlow, ih, Option.bind_eq_bind,
      Option.bind_some, Nat.div_add_mod, UInt8.ofNat_toNat]
    rfl

theorem unhex?_hex (bytes : List UInt8) : unhex? (hex bytes) = some bytes :=
  unhex?_flatMap (by decide) bytes

theorem unhex?_upperHex (bytes : List UInt8) : unhex? (upperHex bytes) = some bytes := by
  have hdigit : ∀ n < 16, hexValue? (hexDigit n).toUpper = some n := by decide
  rw [upperHex, hex, List.map_flatMap]
  exact unhex?_flatMap hdigit bytes

theorem length_hex (bytes : List UInt8) : (hex bytes).length = 2 * bytes.length := by
  induction bytes
  case nil => rfl
  case cons x bytes ih =>
    rw [hex] at ih ⊢
    simp only [List.flatMap_cons, List.length_append, ih, List.length_cons, List.length_nil]
    omega

end PolySql.Text
