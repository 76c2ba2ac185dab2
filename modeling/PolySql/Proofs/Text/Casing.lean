import PolySql.Proofs.Text.Calendar
import PolySql.Proofs.Text.Printed

namespace PolySql

namespace Text

-- The characters whose case is the same in all languages.
def IsLatin (c : Char) : Prop :=
  c.toNat < 128 ∧ c ≠ 'i' ∧ c ≠ 'I'

def IsCaseless (c : Char) : Prop :=
  IsLatin c ∧ c.toLower = c ∧ c.toUpper = c

instance (c : Char) : Decidable (IsLatin c) :=
  inferInstanceAs (Decidable (c.toNat < 128 ∧ c ≠ 'i' ∧ c ≠ 'I'))

instance (c : Char) : Decidable (IsCaseless c) :=
  inferInstanceAs (Decidable (IsLatin c ∧ c.toLower = c ∧ c.toUpper = c))

-- How a server writes text in small and in capital letters. Its language decides what becomes of other letters.
structure CaseMap where
  lower : List Char → List Char
  upper : List Char → List Char
  lower_latin (s : List Char) : (∀ c ∈ s, IsLatin c) → lower s = s.map Char.toLower
  upper_latin (s : List Char) : (∀ c ∈ s, IsLatin c) → upper s = s.map Char.toUpper

-- No letters but those of ASCII are mapped.
def CaseMap.ascii : CaseMap :=
  ⟨List.map Char.toLower, List.map Char.toUpper, fun _ _ => rfl, fun _ _ => rfl⟩

theorem isCaseless_of_isDigit {c : Char} (h : c.isDigit = true) : IsCaseless c := by
  have hall : ∀ n < 58, (Char.ofNat n).isDigit = true → IsCaseless (Char.ofNat n) := by decide
  have hlt : c.toNat < 58 := by
    simp only [Char.isDigit, Bool.and_eq_true, decide_eq_true_eq] at h
    exact Nat.lt_succ_of_le (UInt32.le_iff_toNat_le.mp h.2)
  have hc := hall c.toNat hlt
  rw [Char.ofNat_toNat] at hc
  exact hc h

variable {s : List Char}

theorem map_toLower (h : ∀ c ∈ s, IsCaseless c) : s.map Char.toLower = s :=
  (List.map_congr_left fun c hc => (h c hc).2.1).trans (List.map_id s)

theorem map_toUpper (h : ∀ c ∈ s, IsCaseless c) : s.map Char.toUpper = s :=
  (List.map_congr_left fun c hc => (h c hc).2.2).trans (List.map_id s)

namespace CaseMap

variable (m : CaseMap)

theorem lower_eq_self (h : ∀ c ∈ s, IsCaseless c) : m.lower s = s :=
  (m.lower_latin s fun c hc => (h c hc).1).trans (map_toLower h)

theorem upper_eq_self (h : ∀ c ∈ s, IsCaseless c) : m.upper s = s :=
  (m.upper_latin s fun c hc => (h c hc).1).trans (map_toUpper h)

end CaseMap

end Text

open Text

theorem Decimal.isCaseless_of_mem_text (d : Decimal) : ∀ c ∈ d.text, IsCaseless c :=
  d.forall_mem_text (fun _ => isCaseless_of_isDigit) (by decide) (by decide)

theorem Date.isCaseless_of_mem_text (d : Date) : ∀ c ∈ d.text, IsCaseless c :=
  d.forall_mem_text (fun _ => isCaseless_of_isDigit) (by decide) (by decide)

theorem Time.isCaseless_of_mem_text (t : Time) : ∀ c ∈ t.text, IsCaseless c :=
  t.forall_mem_text (fun _ => isCaseless_of_isDigit) (by decide) (by decide)

namespace Timestamp

theorem isCaseless_of_mem_text (t : Timestamp) : ∀ c ∈ t.text ' ', IsCaseless c := by
  simp only [text, List.forall_mem_append, List.forall_mem_cons]
  exact ⟨t.date.isCaseless_of_mem_text, by decide, t.time.isCaseless_of_mem_text⟩

theorem isLatin_of_mem_zonedText (t : Timestamp) : ∀ c ∈ t.zonedText, IsLatin c := by
  simp only [zonedText, text, List.forall_mem_append, List.forall_mem_cons]
  exact ⟨⟨fun c hc => (t.date.isCaseless_of_mem_text c hc).1, by decide,
    fun c hc => (t.time.isCaseless_of_mem_text c hc).1⟩, by decide, by simp⟩

variable (m : CaseMap) (t : Timestamp)

-- The letters of a timestamp with a zone are capitals.

theorem upper_zonedText : m.upper t.zonedText = t.zonedText := by
  rw [m.upper_latin _ t.isLatin_of_mem_zonedText]
  simp [zonedText, text, map_toUpper t.date.isCaseless_of_mem_text, map_toUpper t.time.isCaseless_of_mem_text]

theorem lower_zonedText : m.lower t.zonedText = t.text 't' ++ ['z'] := by
  rw [m.lower_latin _ t.isLatin_of_mem_zonedText]
  simp [zonedText, text, map_toLower t.date.isCaseless_of_mem_text, map_toLower t.time.isCaseless_of_mem_text]

end Timestamp

end PolySql
