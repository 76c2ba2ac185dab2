import Mathlib.Tactic.SplitIfs
import PolySql.Calendar.Timestamp
import PolySql.Proofs.Text.Reading

namespace PolySql

open Text

namespace Date

theorem forall_mem_text {p : Char → Prop} (hdigit : ∀ c, c.isDigit = true → p c) (hplus : p '+') (hminus : p '-')
    (d : Date) : ∀ c ∈ d.text, p c := by
  have hpadded (w n : Nat) : ∀ c ∈ padded w n, p c := fun c hc => hdigit c (isDigit_of_mem_padded hc)
  have hyear : ∀ c ∈ yearText d.year, p c := by
    rw [yearText]
    split_ifs
    case pos => exact List.forall_mem_cons.mpr ⟨hminus, hpadded 4 _⟩
    case pos => exact hpadded 4 _
    case neg => exact List.forall_mem_cons.mpr ⟨hplus, hpadded 4 _⟩
  simp only [text, List.forall_mem_append, List.forall_mem_cons]
  exact ⟨⟨hyear, hminus, hpadded 2 _⟩, hminus, hpadded 2 _⟩

theorem isBlank_of_mem_text (d : Date) : ∀ c ∈ d.text, isBlank c = false :=
  d.forall_mem_text (fun _ => isBlank_of_isDigit) rfl rfl

theorem make?_self (d : Date) : make? d.year d.month d.day = some d :=
  dif_pos d.valid

theorem month_lt (d : Date) : d.month < 100 := by
  obtain ⟨-, -, -, hmonth, -⟩ := d.valid
  omega

theorem day_lt (d : Date) : d.day < 100 := by
  have hdays : daysIn d.year d.month < 100 := by
    rw [daysIn]
    split_ifs <;> decide
  exact Nat.lt_of_le_of_lt d.valid.2.2.2.2.2 hdays

end Date

namespace Time

theorem forall_mem_text {p : Char → Prop} (hdigit : ∀ c, c.isDigit = true → p c) (hcolon : p ':') (hpoint : p '.')
    (t : Time) : ∀ c ∈ t.text, p c := by
  have hpadded (w n : Nat) : ∀ c ∈ padded w n, p c := fun c hc => hdigit c (isDigit_of_mem_padded hc)
  have hplaces (nano : Nat) : ∀ c ∈ placesText nano, p c := by
    rw [placesText]
    split_ifs
    case pos => nofun
    all_goals exact List.forall_mem_cons.mpr ⟨hpoint, hpadded _ _⟩
  simp only [text, List.forall_mem_append, List.forall_mem_cons]
  exact ⟨⟨⟨hpadded 2 _, hcolon, hpadded 2 _⟩, hcolon, hpadded 2 _⟩, hplaces _⟩

theorem isBlank_of_mem_text (t : Time) : ∀ c ∈ t.text, isBlank c = false :=
  t.forall_mem_text (fun _ => isBlank_of_isDigit) rfl rfl

-- A leap second is shown as the second 60.
theorem ofClock?_shown (t : Time) :
    ofClock? t.hour t.minute (t.second + t.nano / tenTo 9) (t.nano % tenTo 9) = some t := by
  have hmake : make? t.hour t.minute t.second t.nano = some t := dif_pos t.valid
  obtain ⟨-, -, hsecond, hnano⟩ := t.valid
  have h9 : tenTo 9 = 1000000000 := rfl
  rw [ofClock?]
  rw [h9] at hnano ⊢
  by_cases h : t.nano < 1000000000
  case pos =>
    have hdiv : t.nano / 1000000000 = 0 := by omega
    have hmod : t.nano % 1000000000 = t.nano := by omega
    rw [hdiv, hmod, if_neg (by omega)]
    exact hmake
  case neg =>
    have hdiv : t.nano / 1000000000 = 1 := by omega
    have hmod : t.nano % 1000000000 + 1000000000 = t.nano := by omega
    have hleap : t.second = 59 := by omega
    rw [hdiv, hmod, hleap, if_pos rfl, ← hleap]
    exact hmake

end Time

namespace Scan

variable {n w nano : Nat} {r : List Char}

theorem field?_padded (h : n < 100) (r : List Char) : field? (padded 2 n ++ r) = some (n, r) := by
  rw [field?, trimStart_padded (by decide), takeNatural?_padded (by decide) h (by decide)]

theorem twoDigits?_padded (h : n < 100) (r : List Char) : twoDigits? (padded 2 n ++ r) = some (n, r) :=
  takeNatural?_padded (by decide) h (by decide) r

theorem digits?_padded (hw : 0 < w) (n : Nat) (hr : ∀ c ∈ r.head?, c.isDigit = false) :
    digits? (padded w n ++ r) = some (n, r) := by
  have hl := le_length_padded w n
  rw [digits?, takeNatural?_digits (fun _ => isDigit_of_mem_padded) (by omega) (by simp) (.inr hr), toNat_padded]

theorem year?_yearText (year : Int) (hr : ∀ c ∈ r.head?, c.isDigit = false) :
    year? (Date.yearText year ++ r) = some (year, r) := by
  have hread := digits?_padded (w := 4) (by decide) year.natAbs hr
  rw [Date.yearText]
  split_ifs with hnegative hfour
  case pos =>
    obtain ⟨n, rfl⟩ : ∃ n : Nat, year = -n := ⟨year.natAbs, by omega⟩
    rw [Int.natAbs_neg, Int.natAbs_natCast] at hread
    simp [year?, trimStart, isBlank, hread]
  case pos =>
    -- no sign comes first, and not more than four digits
    obtain ⟨c, t, hp, hc⟩ := exists_padded_eq_cons (w := 4) (by decide) year.natAbs
    have hread : takeNatural? 1 4 (padded 4 year.natAbs ++ r) = some (year.natAbs, r) :=
      takeNatural?_padded (by decide) (show year.natAbs < 10 ^ 4 by omega) (by decide) r
    rw [year?, trimStart_padded (by decide)]
    rw [hp, List.cons_append] at hread ⊢
    split
    case h_1 hs =>
      cases hs
      cases hc
    case h_2 hs =>
      cases hs
      cases hc
    case h_3 =>
      simp [hread]
      omega
  case neg =>
    simp [year?, trimStart, isBlank, hread]
    omega

theorem date?_text (d : Date) (r : List Char) : date? (d.text ++ r) = some (d, r) := by
  have hyear (r : List Char) : year? (Date.yearText d.year ++ '-' :: r) = some (d.year, '-' :: r) :=
    year?_yearText d.year (by simp)
  simp [date?, Date.text, hyear, char?, field?_padded d.month_lt, field?_padded d.day_lt, d.make?_self]

theorem places?_padded (hw : 0 < w) (hw9 : w ≤ 9) (hn : n < 10 ^ w) (hr : ∀ c ∈ r.head?, c.isDigit = false) :
    places? ('.' :: (padded w n ++ r)) = some (n * tenTo (9 - w), r) := by
  have hl := length_padded hw hn
  obtain ⟨htake, -⟩ := takeWhile_dropWhile_append (s := padded w n) (fun _ => isDigit_of_mem_padded) hr
  have hne : (padded w n).isEmpty = false := by
    rw [List.isEmpty_eq_false_iff]
    exact List.ne_nil_of_length_pos (hl.symm ▸ hw)
  have hkept : (padded w n).take 9 = padded w n := List.take_of_length_le (by omega)
  rw [places?, htake, hne]
  simp [hkept, hl, toNat_padded]

theorem places?_placesText (h : nano < tenTo 9) (hr : ∀ c ∈ r.head?, c.isDigit = false ∧ c ≠ '.') :
    places? (Time.placesText nano ++ r) = some (nano, r) := by
  have hdigits : ∀ c ∈ r.head?, c.isDigit = false := fun c hc => (hr c hc).1
  have hnano : nano < 1000000000 := h
  rw [Time.placesText]
  split_ifs
  case pos hzero =>
    rw [List.nil_append, hzero, places?]
    rintro t rfl
    exact (hr '.' rfl).2 rfl
  case pos hmilli =>
    have hmilli : nano % 1000000 = 0 := hmilli
    rw [List.cons_append, places?_padded (by decide) (by decide) (show nano / 1000000 < 10 ^ 3 by omega) hdigits]
    simp
    omega
  case pos hmicro =>
    have hmicro : nano % 1000 = 0 := hmicro
    rw [List.cons_append, places?_padded (by decide) (by decide) (show nano / 1000 < 10 ^ 6 by omega) hdigits]
    simp
    omega
  case neg =>
    rw [List.cons_append, places?_padded (by decide) (by decide) h hdigits]
    simp

-- The two digits of a field are read loosely or strictly.
theorem clock?_text {field? : List Char → Option (Nat × List Char)}
    (hfield : ∀ n < 100, ∀ r, field? (padded 2 n ++ r) = some (n, r)) (t : Time)
    (hr : ∀ c ∈ r.head?, c.isDigit = false ∧ c ≠ '.') : clock? field? (t.text ++ r) = some (t, r) := by
  have hclock := t.ofClock?_shown
  have hplaces := places?_placesText (show t.nano % tenTo 9 < tenTo 9 from Nat.mod_lt _ (by decide)) hr
  obtain ⟨hhour, hminute, hsecond, hnano⟩ := t.valid
  rw [show tenTo 9 = 1000000000 from rfl] at hclock hplaces hnano
  simp [clock?, Time.text, char?, hfield _ (show t.hour < 100 by omega), hfield _ (show t.minute < 100 by omega),
    hfield _ (show t.second + t.nano / 1000000000 < 100 by omega), hplaces, hclock]

theorem time?_text (t : Time) : time? t.text = some (t, []) := by
  have h := clock?_text (fun _ h => field?_padded h) t (r := []) (by simp)
  rwa [List.append_nil] at h

-- Years of four digits are in the internet's form.
theorem internetDate?_text {d : Date} (h : 0 ≤ d.year ∧ d.year ≤ 9999) (r : List Char) :
    internetDate? (d.text ++ r) = some (d, r) := by
  obtain ⟨year, hyear⟩ := Int.eq_ofNat_of_zero_le h.1
  have hread (r : List Char) : takeNatural? 4 4 (Date.yearText d.year ++ r) = some (year, r) := by
    rw [Date.yearText, if_neg (by omega), if_pos (by omega), hyear]
    exact takeNatural?_padded (by decide) (show year < 10 ^ 4 by omega) (by decide) r
  simp [internetDate?, Date.text, hread, char?, twoDigits?_padded d.month_lt, twoDigits?_padded d.day_lt, ← hyear,
    d.make?_self]

end Scan

-- The text of a date reads as the date.
theorem Date.read?_text (d : Date) : read? (trim d.text) = some d := by
  have hread := Scan.date?_text d []
  rw [List.append_nil] at hread
  rw [trim_of_forall d.isBlank_of_mem_text, read?, hread]

theorem Time.read?_text (t : Time) : read? (trim t.text) = some t := by
  rw [trim_of_forall t.isBlank_of_mem_text, read?, Scan.time?_text]

namespace Timestamp

variable {t : Timestamp}

theorem read?_text (t : Timestamp) : read? (trim (t.text ' ')) = some t := by
  have htrim : trim (t.text ' ') = t.text ' ' := by
    have h := trim_between t.date.isBlank_of_mem_text t.time.isBlank_of_mem_text (by simp [Date.text])
      (by simp [Time.text]) [' ']
    simpa [text] using h
  have hblank : trimStart (' ' :: t.time.text) = t.time.text :=
    trimStart_eq_self fun c hc => t.time.isBlank_of_mem_text c (List.mem_of_head? hc)
  have hread : Scan.timestamp? (fun s => some (trimStart s)) (t.text ' ') = some (t, []) := by
    simp [Scan.timestamp?, text, Scan.date?_text, hblank, Scan.time?_text]
  rw [htrim, read?, readWith?, hread]
  rfl

theorem earlier?_zero (t : Timestamp) : t.earlier? 0 = some t := by
  obtain ⟨hhour, hminute, -⟩ := t.time.valid
  have hday : (((t.time.hour : Int) * 60 + t.time.minute - 0) % 1440).toNat = t.time.hour * 60 + t.time.minute := by omega
  have hmake : Time.make? ((t.time.hour * 60 + t.time.minute) / 60) ((t.time.hour * 60 + t.time.minute) % 60)
      t.time.second t.time.nano = some t.time := by
    rw [show (t.time.hour * 60 + t.time.minute) / 60 = t.time.hour by omega,
      show (t.time.hour * 60 + t.time.minute) % 60 = t.time.minute by omega]
    exact dif_pos t.time.valid
  simp only [earlier?, hday, hmake]
  rw [if_neg (by omega), if_pos (by omega)]

-- The text of a timestamp with a zone, or the same in small letters.
section

variable {separator zone : Char} (hs : separator = 'T' ∨ separator = 't') (hz : zone = 'Z' ∨ zone = 'z')

include hs hz

theorem trim_zoned (t : Timestamp) : trim (t.text separator ++ [zone]) = t.text separator ++ [zone] := by
  have hseparator : isBlank separator = false := by rcases hs with rfl | rfl <;> rfl
  have hzone : isBlank zone = false := by rcases hz with rfl | rfl <;> rfl
  apply trim_of_forall
  simp only [text, List.forall_mem_append, List.forall_mem_cons]
  exact ⟨⟨t.date.isBlank_of_mem_text, hseparator, t.time.isBlank_of_mem_text⟩, hzone, nofun⟩

theorem readZoned?_zoned (h : 0 ≤ t.date.year ∧ t.date.year ≤ 9999) :
    readZoned? (trim (t.text separator ++ [zone])) = some t := by
  have hzone : zone.isDigit = false ∧ zone ≠ '.' := by rcases hz with rfl | rfl <;> decide
  have hclock := Scan.clock?_text (fun _ h => Scan.twoDigits?_padded h) t.time (r := [zone]) (by simpa using hzone)
  have hseparator (r : List Char) : Scan.internetSeparator? (separator :: r) = some r := by
    rcases hs with rfl | rfl <;> rfl
  have hoffset : Scan.offset? (Scan.char? ':') false [zone] = some (0, []) := by rcases hz with rfl | rfl <;> rfl
  have hread : Scan.internetTimestamp? (t.text separator ++ [zone]) = some t := by
    simp [Scan.internetTimestamp?, text, Scan.internetDate?_text h, hseparator, hclock, hoffset, earlier?_zero]
  rw [trim_zoned hs hz, readZoned?, hread]
  rfl

-- The internet's form has no sign before the year, and the loose one has no letter after the day.
theorem readZoned?_zoned_eq_none (h : t.date.year < 0 ∨ 9999 < t.date.year) :
    readZoned? (trim (t.text separator ++ [zone])) = none := by
  have hyear (r : List Char) : takeNatural? 4 4 (Date.yearText t.date.year ++ r) = none := by
    refine takeNatural?_eq_none (by decide) ?_
    rw [Date.yearText]
    split_ifs
    case pos => simp
    case pos => omega
    case neg => simp
  have hinternet : Scan.internetTimestamp? (t.text separator ++ [zone]) = none := by
    simp [Scan.internetTimestamp?, Scan.internetDate?, text, Date.text, hyear]
  have hletter : isBlank separator = false ∧ separator.isDigit = false := by rcases hs with rfl | rfl <;> decide
  have hseparator (r : List Char) : trimStart (separator :: r) = separator :: r :=
    trimStart_eq_self (by simpa using hletter.1)
  have hclock (r : List Char) : Scan.time? (separator :: r) = none := by
    have hfield : Scan.field? (separator :: r) = none :=
      takeNatural?_eq_none (by decide) (by simpa [hseparator] using hletter.2)
    simp [Scan.time?, Scan.clock?, hfield]
  have hloose : Scan.looseTimestamp? (t.text separator ++ [zone]) = none := by
    simp [Scan.looseTimestamp?, Scan.timestamp?, text, Scan.date?_text, hseparator, hclock]
  rw [trim_zoned hs hz, readZoned?, hinternet, hloose]
  rfl

end

theorem readZoned?_text (h : 0 ≤ t.date.year ∧ t.date.year ≤ 9999) : readZoned? (trim t.zonedText) = some t :=
  readZoned?_zoned (.inl rfl) (.inl rfl) h

theorem readZoned?_eq_none (h : t.date.year < 0 ∨ 9999 < t.date.year) : readZoned? (trim t.zonedText) = none :=
  readZoned?_zoned_eq_none (.inl rfl) (.inl rfl) h

end Timestamp

end PolySql
