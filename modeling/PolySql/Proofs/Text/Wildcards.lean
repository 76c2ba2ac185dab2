import Mathlib.Data.List.Infix

namespace PolySql.Text

-- Does the pattern take the text? A percent sign stands for any run of characters, an underscore for any one, and all
-- else for itself.
def like : List Char → List Char → Bool
  | [], s => s.isEmpty
  | c :: p, s =>
    if c = '%' then s.tails.any (like p)
    else match s with
      | [] => false
      | x :: r => (c == '_' || x == c) && like p r

def isWildcard (c : Char) : Bool :=
  c == '%' || c == '_'

variable {p s : List Char} {c x : Char}

theorem like_percent : like ('%' :: p) s = true ↔ ∃ a b, s = a ++ b ∧ like p b = true := by
  simp only [like, if_pos, List.any_eq_true, List.mem_tails]
  constructor
  case mp =>
    rintro ⟨b, ⟨a, rfl⟩, hb⟩
    exact ⟨a, b, rfl, hb⟩
  case mpr =>
    rintro ⟨a, b, rfl, hb⟩
    exact ⟨b, List.suffix_append a b, hb⟩

theorem like_cons_of_ne (h : c ≠ '%') :
    like (c :: p) s = true ↔ ∃ x r, s = x :: r ∧ (c = '_' ∨ x = c) ∧ like p r = true := by
  cases s
  case nil => simp [like, h]
  case cons x r => simp [like, h]

-- A percent sign at the end takes any end.
theorem like_append_percent : like (p ++ ['%']) s = true ↔ ∃ a b, s = a ++ b ∧ like p a = true := by
  induction p generalizing s
  case nil =>
    rw [List.nil_append, like_percent]
    exact ⟨fun _ => ⟨[], s, rfl, rfl⟩, fun _ => ⟨s, [], by simp, rfl⟩⟩
  case cons c p ih =>
    rw [List.cons_append]
    by_cases hc : c = '%'
    case pos =>
      subst hc
      simp only [like_percent, ih]
      constructor
      case mp =>
        rintro ⟨run, _, rfl, a, b, rfl, ha⟩
        exact ⟨run ++ a, b, by rw [List.append_assoc], run, a, rfl, ha⟩
      case mpr =>
        rintro ⟨_, b, rfl, run, a, rfl, ha⟩
        exact ⟨run, a ++ b, by rw [List.append_assoc], a, b, rfl, ha⟩
    case neg =>
      simp only [like_cons_of_ne hc, ih]
      constructor
      case mp =>
        rintro ⟨x, _, rfl, hx, a, b, rfl, ha⟩
        exact ⟨x :: a, b, rfl, x, a, rfl, hx, ha⟩
      case mpr =>
        rintro ⟨_, b, rfl, x, a, rfl, hx, ha⟩
        exact ⟨x, a ++ b, rfl, hx, a, b, rfl, ha⟩

-- A text without wildcards takes itself alone.
theorem like_iff_of_plain (h : ∀ c ∈ p, isWildcard c = false) : like p s = true ↔ s = p := by
  induction p generalizing s
  case nil => simp [like]
  case cons c p ih =>
    rw [List.forall_mem_cons] at h
    have hc : c ≠ '%' ∧ c ≠ '_' := by simpa [isWildcard] using h.1
    simp [like_cons_of_ne hc.1, hc.2, ih h.2]

-- Any text takes what differs from it only at wildcards, in other characters.
theorem like_of_replaced (p : List Char) (x : Char) :
    like p (p.map fun c => if isWildcard c then x else c) = true := by
  induction p
  case nil => rfl
  case cons c p ih =>
    rw [List.map_cons]
    by_cases hc : c = '%'
    case pos =>
      subst hc
      exact like_percent.mpr ⟨[_], _, rfl, ih⟩
    case neg =>
      refine (like_cons_of_ne hc).mpr ⟨_, _, rfl, ?_, ih⟩
      cases hw : isWildcard c
      case false => exact .inr rfl
      case true => exact .inl (by simpa [isWildcard, hc] using hw)

theorem like_self (p : List Char) : like p p = true := by
  induction p
  case nil => rfl
  case cons c p ih =>
    by_cases hc : c = '%'
    case pos =>
      subst hc
      exact like_percent.mpr ⟨['%'], p, rfl, ih⟩
    case neg => exact (like_cons_of_ne hc).mpr ⟨c, p, rfl, .inr rfl, ih⟩

-- Where there are wildcards, another text of the same length is taken as well.
theorem exists_like_ne (h : ∃ c ∈ p, isWildcard c = true) : ∃ s, s.length = p.length ∧ s ≠ p ∧ like p s = true := by
  refine ⟨_, List.length_map .., fun heq => ?_, like_of_replaced p 'a'⟩
  obtain ⟨c, hc, hw⟩ := h
  have hreplaced := List.map_inj_left.mp (heq.trans (List.map_id p).symm) c hc
  rw [if_pos hw, id] at hreplaced
  subst hreplaced
  nomatch hw

theorem like_of_prefix (h : p <+: s) : like (p ++ ['%']) s = true := by
  obtain ⟨b, rfl⟩ := h
  exact like_append_percent.mpr ⟨p, b, rfl, like_self p⟩

theorem like_of_suffix (h : p <:+ s) : like ('%' :: p) s = true := by
  obtain ⟨a, rfl⟩ := h
  exact like_percent.mpr ⟨a, p, rfl, like_self p⟩

-- A pattern made from a text and a percent sign finds the texts that begin with it, if it has no wildcards itself.
theorem like_iff_prefix : (∀ s, like (p ++ ['%']) s = true ↔ p <+: s) ↔ ∀ c ∈ p, isWildcard c = false := by
  constructor
  case mp =>
    intro h
    by_contra! hw
    obtain ⟨s, hl, hne, hs⟩ := exists_like_ne (p := p) (by simpa using hw)
    have hbegins := (h s).mp (like_append_percent.mpr ⟨s, [], (List.append_nil s).symm, hs⟩)
    exact hne (hbegins.eq_of_length hl.symm).symm
  case mpr =>
    intro h s
    refine ⟨fun hs => ?_, like_of_prefix⟩
    obtain ⟨a, b, rfl, ha⟩ := like_append_percent.mp hs
    rw [(like_iff_of_plain h).mp ha]
    exact List.prefix_append p b

theorem like_iff_suffix : (∀ s, like ('%' :: p) s = true ↔ p <:+ s) ↔ ∀ c ∈ p, isWildcard c = false := by
  constructor
  case mp =>
    intro h
    by_contra! hw
    obtain ⟨s, hl, hne, hs⟩ := exists_like_ne (p := p) (by simpa using hw)
    have hsuffix := (h s).mp (like_percent.mpr ⟨[], s, rfl, hs⟩)
    exact hne (hsuffix.eq_of_length hl.symm).symm
  case mpr =>
    intro h s
    refine ⟨fun hs => ?_, like_of_suffix⟩
    obtain ⟨a, b, rfl, hb⟩ := like_percent.mp hs
    rw [(like_iff_of_plain h).mp hb]
    exact List.suffix_append a p

end PolySql.Text
