import Mathlib.Data.List.TakeWhile
import PolySql.Proofs.Sql.Outcome
import PolySql.Proofs.Text.Reading
import PolySql.Version

namespace PolySql

namespace Version

open Text

-- A run of digits that ends where the rest of the text begins.
structure IsRun (run rest : List Char) : Prop where
  ne_nil : run ≠ []
  digits : ∀ c ∈ run, isDecimalDigit c = true
  ends : ∀ c ∈ rest.head?, isDecimalDigit c = false

-- Up to `n` runs, each after a point, as many as there are, and what follows them.
inductive Follow : Nat → List Char → List (List Char) → List Char → Prop
  | enough : Follow 0 tail [] tail
  | last (h : ∀ c r, tail = '.' :: c :: r → isDecimalDigit c = false) : Follow n tail [] tail
  | next (hrun : IsRun run rest) (hrest : Follow n rest runs tail) : Follow (n + 1) ('.' :: (run ++ rest)) (run :: runs) tail

-- The runs that a banner has from its first digit on, at most three of them, and the text behind them.
inductive Shows : List Char → List (List Char) → List Char → Prop
  | of_first (hbefore : ∀ c ∈ before, isDecimalDigit c = false) (hrun : IsRun run rest) (hrest : Follow 2 rest runs tail) :
    Shows (before ++ (run ++ rest)) (run :: runs) tail

-- The run is a number of 32 bits in plain digits.
def IsNumber (run : List Char) : Prop :=
  run ≠ [] ∧ (∀ c ∈ run, c.isDigit = true) ∧ toNat run < 2 ^ 32

-- The number in the run at the position, or zero if there are fewer runs.
def numberAt (runs : List (List Char)) (i : Nat) : Nat :=
  (runs[i]?.map toNat).getD 0

variable {s before run rest tail a b : List Char} {runs : List (List Char)} {n : Nat} {v : Version} {x : UInt32}

namespace IsRun

theorem takeWhile (h : IsRun run rest) : (run ++ rest).takeWhile isDecimalDigit = run :=
  (takeWhile_dropWhile_append h.digits h.ends).1

theorem dropWhile (h : IsRun run rest) : (run ++ rest).dropWhile isDecimalDigit = rest :=
  (takeWhile_dropWhile_append h.digits h.ends).2

theorem append_inj {run' rest' : List Char} (h : IsRun run rest) (h' : IsRun run' rest')
    (heq : run ++ rest = run' ++ rest') : run = run' ∧ rest = rest' :=
  ⟨by rw [← h.takeWhile, heq, h'.takeWhile], by rw [← h.dropWhile, heq, h'.dropWhile]⟩

theorem exists_cons (h : IsRun run rest) : ∃ c r, run = c :: r ∧ isDecimalDigit c = true := by
  obtain ⟨c, r, rfl⟩ := List.exists_cons_of_ne_nil h.ne_nil
  exact ⟨c, r, rfl, h.digits c List.mem_cons_self⟩

end IsRun

-- The conditions can be computed.

theorem forall_of_any (h : s.any isDecimalDigit = false) : ∀ c ∈ s, isDecimalDigit c = false := by
  simpa using List.any_eq_false.mp h

theorem forall_of_head? (h : s.head?.any isDecimalDigit = false) : ∀ c ∈ s.head?, isDecimalDigit c = false := by
  intro c hc
  simpa [Option.mem_def.mp hc] using h

theorem IsRun.of_all (hne : run.isEmpty = false) (hrun : run.all isDecimalDigit = true)
    (hrest : rest.head?.any isDecimalDigit = false) : IsRun run rest :=
  ⟨List.isEmpty_eq_false_iff.mp hne, List.all_eq_true.mp hrun, forall_of_head? hrest⟩

theorem exists_isRun (hs : ∀ c ∈ s.head?, isDecimalDigit c = true) (hne : s ≠ []) :
    ∃ run rest, s = run ++ rest ∧ IsRun run rest := by
  refine ⟨s.takeWhile isDecimalDigit, s.dropWhile isDecimalDigit, List.takeWhile_append_dropWhile.symm, ?_, ?_, ?_⟩
  case refine_1 =>
    obtain ⟨c, r, rfl⟩ := List.exists_cons_of_ne_nil hne
    simp [hs c rfl]
  case refine_2 => exact List.all_eq_true.mp List.all_takeWhile
  case refine_3 =>
    intro c hc
    have hhead := List.head?_dropWhile_not isDecimalDigit s
    rw [Option.mem_def.mp hc] at hhead
    exact hhead

namespace Follow

theorem exists_follow (n : Nat) (s : List Char) : ∃ runs tail, Follow n s runs tail := by
  induction n generalizing s
  case zero => exact ⟨[], s, .enough⟩
  case succ n ih =>
    by_cases h : ∃ c r, s = '.' :: c :: r ∧ isDecimalDigit c = true
    case neg => exact ⟨[], s, .last fun c r hs => by simpa using fun hc => h ⟨c, r, hs, hc⟩⟩
    case pos =>
      obtain ⟨c, r, rfl, hc⟩ := h
      obtain ⟨run, rest, hr, hrun⟩ := exists_isRun (s := c :: r) (by simpa using hc) nofun
      obtain ⟨runs, tail, hrest⟩ := ih rest
      exact ⟨run :: runs, tail, hr ▸ .next hrun hrest⟩

theorem not_last (hrun : IsRun run rest)
    (h : ∀ c r, '.' :: (run ++ rest) = '.' :: c :: r → isDecimalDigit c = false) : False := by
  obtain ⟨c, r, rfl, hc⟩ := hrun.exists_cons
  exact absurd hc (by simp [h c (r ++ rest) rfl])

theorem unique {s' tail' : List Char} {runs' : List (List Char)} (h : Follow n s runs tail)
    (h' : Follow n s' runs' tail') (hs : s = s') : runs = runs' ∧ tail = tail' := by
  induction h generalizing s' runs' tail'
  case enough => cases h' <;> exact ⟨rfl, hs⟩
  case last hlast =>
    cases h'
    case next hrun _ => exact (not_last hrun (hs ▸ hlast)).elim
    all_goals exact ⟨rfl, hs⟩
  case next hrun _ ih =>
    cases h'
    case last hlast => exact (not_last hrun (hs.symm ▸ hlast)).elim
    case next hrun' hrest' =>
      obtain ⟨rfl, hrest⟩ := hrun.append_inj hrun' (List.cons.inj hs).2
      obtain ⟨rfl, htail⟩ := ih hrest' hrest
      exact ⟨rfl, htail⟩

theorem length_le (h : Follow n s runs tail) : runs.length ≤ n := by
  induction h
  case next _ _ ih => simpa using ih
  all_goals simp

end Follow

namespace Shows

theorem exists_shows (h : ∃ c ∈ s, isDecimalDigit c = true) : ∃ runs tail, Shows s runs tail := by
  have hsplit : s.takeWhile (!isDecimalDigit ·) ++ s.dropWhile (!isDecimalDigit ·) = s :=
    List.takeWhile_append_dropWhile
  have hbefore : ∀ c ∈ s.takeWhile (!isDecimalDigit ·), isDecimalDigit c = false := by
    simpa using List.all_eq_true.mp (List.all_takeWhile (p := (!isDecimalDigit ·)) (l := s))
  have hne : s.dropWhile (!isDecimalDigit ·) ≠ [] := by
    obtain ⟨c, hc, hdigit⟩ := h
    intro hnil
    have hnot := List.dropWhile_eq_nil_iff.mp hnil c hc
    simp [hdigit] at hnot
  have hhead : ∀ c ∈ (s.dropWhile (!isDecimalDigit ·)).head?, isDecimalDigit c = true := by
    intro c hc
    have hhead := List.head?_dropWhile_not (!isDecimalDigit ·) s
    rw [Option.mem_def.mp hc] at hhead
    simpa using hhead
  obtain ⟨run, rest, hr, hrun⟩ := exists_isRun hhead hne
  obtain ⟨runs, tail, hrest⟩ := Follow.exists_follow 2 rest
  rw [← hsplit, hr]
  exact ⟨run :: runs, tail, .of_first hbefore hrun hrest⟩

-- Behind what is no digit the first run begins.
theorem dropWhile_append (hbefore : ∀ c ∈ before, isDecimalDigit c = false) (hrun : IsRun run rest) :
    (before ++ (run ++ rest)).dropWhile (!isDecimalDigit ·) = run ++ rest := by
  obtain ⟨c, r, rfl, hc⟩ := hrun.exists_cons
  refine (takeWhile_dropWhile_append (by simpa using hbefore) ?_).2
  simpa using hc

theorem unique {s' tail' : List Char} {runs' : List (List Char)} (h : Shows s runs tail) (h' : Shows s' runs' tail')
    (hs : s = s') : runs = runs' ∧ tail = tail' := by
  cases h
  case of_first hbefore hrun hrest =>
    cases h'
    case of_first hbefore' hrun' hrest' =>
      have heq := dropWhile_append hbefore hrun
      rw [hs, dropWhile_append hbefore' hrun'] at heq
      obtain ⟨rfl, hrests⟩ := hrun.append_inj hrun' heq.symm
      obtain ⟨rfl, htail⟩ := hrest.unique hrest' hrests
      exact ⟨rfl, htail⟩

end Shows

theorem component?_nil : component? [] = some 0 :=
  rfl

theorem component?_eq_some (hne : run ≠ []) : component? run = some x ↔ IsNumber run ∧ x.toNat = toNat run := by
  have htwo : twoTo 32 = 2 ^ 32 := rfl
  rw [component?, htwo, if_neg (by simpa using hne), Option.bind_eq_bind, Option.bind_eq_some_iff]
  constructor
  case mp =>
    rintro ⟨n, hn, h⟩
    obtain ⟨-, hdigits, rfl⟩ := natural?_eq_some.mp hn
    split at h
    case isTrue hlt =>
      cases h
      exact ⟨⟨hne, hdigits, hlt⟩, UInt32.toNat_ofNat_of_lt' hlt⟩
    case isFalse => nomatch h
  case mpr =>
    rintro ⟨⟨-, hdigits, hlt⟩, hx⟩
    refine ⟨toNat run, natural?_eq_some.mpr ⟨hne, hdigits, rfl⟩, ?_⟩
    rw [if_pos hlt, ← hx, UInt32.ofNat_toNat]

theorem nextRun_append (h : IsRun run rest) : nextRun ('.' :: (run ++ rest)) = (run, rest) := by
  rw [nextRun, h.takeWhile, h.dropWhile]

theorem nextRun_of_last (h : ∀ c r, tail = '.' :: c :: r → isDecimalDigit c = false) : (nextRun tail).1 = [] := by
  rw [nextRun.eq_def]
  split
  case h_1 r =>
    cases r
    case nil => rfl
    case cons c r => simp [h c r rfl]
  case h_2 => rfl

-- The banner has the components that its runs have, and zero for those it does not show.
theorem parts?_of_shows (h : Shows s runs tail) : parts? s = do
    return ⟨← component? (runs[0]?.getD []), ← component? (runs[1]?.getD []), ← component? (runs[2]?.getD [])⟩ := by
  cases h
  case of_first before run rest runs hbefore hrun hrest =>
    have hne : (run ++ rest).isEmpty = false := by simp [hrun.ne_nil]
    simp only [parts?, Shows.dropWhile_append hbefore hrun, hrun.takeWhile, hrun.dropWhile, hne]
    cases hrest
    case last hlast => simp [nextRun_of_last hlast]
    case next run' rest' runs hrun' hrest' =>
      have hne' : run'.isEmpty = false := by simp [hrun'.ne_nil]
      simp only [nextRun_append hrun', hne']
      cases hrest'
      case last hlast => simp [nextRun_of_last hlast]
      case next hrun'' hrest'' =>
        obtain ⟨rfl, -⟩ := hrest''.unique .enough rfl
        simp [nextRun_append hrun'']

theorem Shows.length_le (h : Shows s runs tail) : runs.length ≤ 3 := by
  cases h
  case of_first hrest => exact Nat.succ_le_succ hrest.length_le

theorem Follow.ne_nil (h : Follow n s runs tail) : ∀ run ∈ runs, run ≠ [] := by
  induction h
  case next hrun _ ih => exact List.forall_mem_cons.mpr ⟨hrun.ne_nil, ih⟩
  all_goals exact nofun

theorem Shows.ne_nil (h : Shows s runs tail) : ∀ run ∈ runs, run ≠ [] := by
  cases h
  case of_first hrun hrest => exact List.forall_mem_cons.mpr ⟨hrun.ne_nil, hrest.ne_nil⟩

theorem exists_component (h : ∀ run ∈ runs, IsNumber run) (i : Nat) :
    ∃ x, component? (runs[i]?.getD []) = some x ∧ x.toNat = numberAt runs i := by
  rw [numberAt]
  cases hi : runs[i]?
  case none => exact ⟨0, component?_nil, rfl⟩
  case some run =>
    have hrun := h run (List.mem_of_getElem? hi)
    have hx : (UInt32.ofNat (toNat run)).toNat = toNat run := UInt32.toNat_ofNat_of_lt' hrun.2.2
    exact ⟨_, (component?_eq_some hrun.1).mpr ⟨hrun, hx⟩, hx⟩

theorem parts?_of_numbers (h : Shows s runs tail) (hruns : ∀ run ∈ runs, IsNumber run) : ∃ v, parts? s = some v ∧
    v.major.toNat = numberAt runs 0 ∧ v.minor.toNat = numberAt runs 1 ∧ v.patch.toNat = numberAt runs 2 := by
  obtain ⟨major, hmajor, hmajorNat⟩ := exists_component hruns 0
  obtain ⟨minor, hminor, hminorNat⟩ := exists_component hruns 1
  obtain ⟨patch, hpatch, hpatchNat⟩ := exists_component hruns 2
  rw [parts?_of_shows h, hmajor, hminor, hpatch]
  exact ⟨⟨major, minor, patch⟩, rfl, hmajorNat, hminorNat, hpatchNat⟩

theorem numbers_of_parts? (h : Shows s runs tail) (hv : parts? s = some v) : ∀ run ∈ runs, IsNumber run := by
  rw [parts?_of_shows h] at hv
  obtain ⟨major, hmajor, hv⟩ := Option.bind_eq_some_iff.mp hv
  obtain ⟨minor, hminor, hv⟩ := Option.bind_eq_some_iff.mp hv
  obtain ⟨patch, hpatch, -⟩ := Option.bind_eq_some_iff.mp hv
  intro run hrun
  obtain ⟨i, hi, rfl⟩ := List.mem_iff_getElem.mp hrun
  have hlt := Nat.lt_of_lt_of_le hi h.length_le
  have hcomponent : ∃ x, component? (runs[i]?.getD []) = some x := by
    match i with
    | 0 => exact ⟨major, hmajor⟩
    | 1 => exact ⟨minor, hminor⟩
    | 2 => exact ⟨patch, hpatch⟩
  obtain ⟨x, hx⟩ := hcomponent
  rw [List.getElem?_eq_getElem hi] at hx
  exact ((component?_eq_some (h.ne_nil _ hrun)).mp hx).1

theorem parts?_of_forall (h : ∀ c ∈ s, isDecimalDigit c = false) : parts? s = none := by
  have hdrop : s.dropWhile (!isDecimalDigit ·) = [] := List.dropWhile_eq_nil_iff.mpr (by simpa using h)
  simp [parts?, hdrop]

theorem parts?_eq_none : parts? s = none ↔ (∀ c ∈ s, isDecimalDigit c = false) ∨
    ∃ runs tail, Shows s runs tail ∧ ∃ run ∈ runs, ¬IsNumber run := by
  constructor
  case mp =>
    intro hnone
    by_cases h : ∃ c ∈ s, isDecimalDigit c = true
    case neg => exact .inl fun c hc => by simpa using fun hdigit => h ⟨c, hc, hdigit⟩
    case pos =>
      obtain ⟨runs, tail, hs⟩ := Shows.exists_shows h
      refine .inr ⟨runs, tail, hs, ?_⟩
      by_contra hruns
      obtain ⟨v, hv, -⟩ := parts?_of_numbers hs (by simpa using hruns)
      nomatch hnone.symm.trans hv
  case mpr =>
    rintro (h | ⟨runs, tail, hs, run, hrun, hnot⟩)
    case inl => exact parts?_of_forall h
    case inr =>
      rw [Option.eq_none_iff_forall_ne_some]
      exact fun v hv => hnot (numbers_of_parts? hs hv run hrun)

theorem isDecimalDigit_of_isDigit {c : Char} (h : c.isDigit = true) : isDecimalDigit c = true := by
  simp only [Char.isDigit, Bool.and_eq_true, decide_eq_true_eq, UInt32.le_iff_toNat_le] at h
  have hval : c.toNat = c.val.toNat := rfl
  refine List.any_eq_true.mpr ⟨48, by decide, ?_⟩
  simp at h ⊢
  omega

theorem isNumber_ofNat (x : UInt32) : IsNumber (ofNat x.toNat) :=
  ⟨ofNat_ne_nil _, fun _ => isDigit_of_mem_ofNat, by rw [toNat_ofNat]; exact x.toNat_lt⟩

theorem shows_three {c : List Char} (hbefore : ∀ x ∈ before, isDecimalDigit x = false)
    (ha : a ≠ [] ∧ ∀ x ∈ a, isDecimalDigit x = true) (hb : b ≠ [] ∧ ∀ x ∈ b, isDecimalDigit x = true)
    (hc : c ≠ [] ∧ ∀ x ∈ c, isDecimalDigit x = true) (htail : ∀ x ∈ tail.head?, isDecimalDigit x = false) :
    Shows (before ++ (a ++ '.' :: (b ++ '.' :: (c ++ tail)))) [a, b, c] tail := by
  have hpoint (r : List Char) : ∀ x ∈ ('.' :: r).head?, isDecimalDigit x = false := by
    rintro _ ⟨⟩
    decide
  exact .of_first hbefore ⟨ha.1, ha.2, hpoint _⟩
    (.next ⟨hb.1, hb.2, hpoint _⟩ (.next ⟨hc.1, hc.2, htail⟩ .enough))

-- Behind three runs any text may stand that does not begin with a digit.
theorem Shows.with_tail {c tail' : List Char} (h : Shows (s ++ tail) [a, b, c] tail)
    (htail : ∀ x ∈ tail'.head?, isDecimalDigit x = false) : Shows (s ++ tail') [a, b, c] tail' := by
  generalize hbanner : s ++ tail = banner at h
  cases h
  case of_first before _ hbefore ha hrest =>
    cases hrest
    case next _ hb hrest =>
      cases hrest
      case next _ hc hrest =>
        obtain ⟨-, rfl⟩ := hrest.unique .enough rfl
        have hs : s = before ++ (a ++ '.' :: (b ++ '.' :: c)) :=
          List.append_cancel_right (hbanner.trans (by simp))
        have hshows := shows_three hbefore ⟨ha.ne_nil, ha.digits⟩ ⟨hb.ne_nil, hb.digits⟩ ⟨hc.ne_nil, hc.digits⟩ htail
        simpa [hs] using hshows

theorem parts?_text (hbefore : ∀ c ∈ before, isDecimalDigit c = false)
    (htail : ∀ c ∈ tail.head?, isDecimalDigit c = false) : parts? (before ++ (v.text.toList ++ tail)) = some v := by
  have hdigits (x : UInt32) : ofNat x.toNat ≠ [] ∧ ∀ c ∈ ofNat x.toNat, isDecimalDigit c = true :=
    ⟨ofNat_ne_nil _, fun _ hc => isDecimalDigit_of_isDigit (isDigit_of_mem_ofNat hc)⟩
  have hshows := shows_three hbefore (hdigits v.major) (hdigits v.minor) (hdigits v.patch) htail
  have hnumbers : ∀ run ∈ [ofNat v.major.toNat, ofNat v.minor.toNat, ofNat v.patch.toNat], IsNumber run := by
    simp [isNumber_ofNat]
  obtain ⟨w, hw, hmajor, hminor, hpatch⟩ := parts?_of_numbers hshows hnumbers
  have htext : v.text.toList ++ tail = ofNat v.major.toNat ++ '.' :: (ofNat v.minor.toNat ++
      '.' :: (ofNat v.patch.toNat ++ tail)) := by
    simp [text]
  rw [htext, hw, Option.some_inj]
  simp only [numberAt, List.getElem?_cons_zero, List.getElem?_cons_succ, Option.map_some, Option.getD_some,
    toNat_ofNat, UInt32.toNat_inj] at hmajor hminor hpatch
  cases w
  cases v
  simp_all

theorem toOption_parse (banner : String) : (parse banner).toOption = parts? banner.toList := by
  rw [parse]
  cases parts? banner.toList <;> rfl

theorem parse_eq_error {banner : String} {e : DatabaseError} : parse banner = .error e ↔
    parts? banner.toList = none ∧ e = .config ("Unrecognized server version '" ++ banner ++ "'") := by
  rw [parse]
  cases parts? banner.toList
  case none => exact ⟨fun h => ⟨rfl, (Except.error.inj h).symm⟩, fun h => congrArg Except.error h.2.symm⟩
  case some v => simp

-- A banner is read by its runs of digits alone: what a version prints stands for that version wherever no digit comes
-- before it or right after it, and a banner without a number is refused, in a message that quotes it.
theorem parse_banner :
    (∀ (v : Version) (before after : String), (∀ c ∈ before.toList, isDecimalDigit c = false) →
      (∀ c ∈ after.toList.head?, isDecimalDigit c = false) → parse (before ++ v.text ++ after) = .ok v) ∧
    (∀ banner : String, (∃ e, parse banner = .error e) ↔ (∀ c ∈ banner.toList, isDecimalDigit c = false) ∨
      ∃ runs tail, Shows banner.toList runs tail ∧ ∃ run ∈ runs, ¬IsNumber run) ∧
    (∀ banner e, parse banner = .error e → e = .config ("Unrecognized server version '" ++ banner ++ "'")) ∧
    (∀ (banner : String) runs tail, Shows banner.toList runs tail → (∀ run ∈ runs, IsNumber run) → ∃ v, parse banner = .ok v ∧
      v.major.toNat = numberAt runs 0 ∧ v.minor.toNat = numberAt runs 1 ∧ v.patch.toNat = numberAt runs 2) ∧
    (∀ banner : String, (∃ c ∈ banner.toList, isDecimalDigit c = true) → ∃ runs tail, Shows banner.toList runs tail ∧
      ∀ runs' tail', Shows banner.toList runs' tail' → runs' = runs ∧ tail' = tail) ∧
    ∀ (shown tail tail' : String) runs, runs.length = 3 → Shows (shown ++ tail).toList runs tail.toList →
      (∀ c ∈ tail'.toList.head?, isDecimalDigit c = false) →
      (parse (shown ++ tail')).toOption = (parse (shown ++ tail)).toOption := by
  refine ⟨?_, ?_, ?_, ?_, ?_, ?_⟩
  case refine_1 =>
    intro v before after hbefore hafter
    have hparts := parts?_text (v := v) hbefore hafter
    rw [← Result.toOption_eq_some, toOption_parse]
    simpa using hparts
  case refine_2 =>
    intro banner
    rw [← parts?_eq_none]
    exact ⟨fun ⟨_, he⟩ => (parse_eq_error.mp he).1, fun h => ⟨_, parse_eq_error.mpr ⟨h, rfl⟩⟩⟩
  case refine_3 => exact fun banner e he => (parse_eq_error.mp he).2
  case refine_4 =>
    intro banner runs tail hshows hruns
    obtain ⟨v, hv, hnumbers⟩ := parts?_of_numbers hshows hruns
    exact ⟨v, by rw [← Result.toOption_eq_some, toOption_parse, hv], hnumbers⟩
  case refine_5 =>
    intro banner h
    obtain ⟨runs, tail, hshows⟩ := Shows.exists_shows h
    exact ⟨runs, tail, hshows, fun _ _ h' => h'.unique hshows rfl⟩
  case refine_6 =>
    intro shown tail tail' runs hlength h htail
    obtain ⟨a, b, c, rfl⟩ := List.length_eq_three.mp hlength
    rw [String.toList_append] at h
    rw [toOption_parse, toOption_parse, String.toList_append, String.toList_append, parts?_of_shows h,
      parts?_of_shows (h.with_tail htail)]

theorem parse_banner_of_vendors :
    parse ("v" ++ text ⟨8, 0, 36⟩ ++ "-0ubuntu0.22.04.1") = .ok ⟨8, 0, 36⟩ ∧
    (∃ e, parse "PostgreSQL 9.\u0664" = .error e ∧ e = .config "Unrecognized server version 'PostgreSQL 9.\u0664'") ∧
    (∃ v, parse "PostgreSQL 9.6beta1" = .ok v ∧ v.major.toNat = 9 ∧ v.minor.toNat = 6 ∧ v.patch.toNat = 0) ∧
    (parse "3.45.1.4 2024").toOption = (parse "3.45.1-alpha").toOption := by
  have hnine : IsRun "9".toList ".\u0664".toList := .of_all rfl (by decide) (by decide)
  have hfour : IsRun "\u0664".toList [] := .of_all rfl (by decide) (by decide)
  have hlong : IsRun "9".toList ".6beta1".toList := .of_all rfl (by decide) (by decide)
  have hsix : IsRun "6".toList "beta1".toList := .of_all rfl (by decide) (by decide)
  have hbefore : ∀ c ∈ "PostgreSQL ".toList, isDecimalDigit c = false := forall_of_any (by decide)
  have hforeign : Shows "PostgreSQL 9.\u0664".toList ["9".toList, "\u0664".toList] [] :=
    .of_first hbefore hnine (.next hfour (.last nofun))
  have hbeta : Shows "PostgreSQL 9.6beta1".toList ["9".toList, "6".toList] "beta1".toList :=
    .of_first hbefore hlong (.next hsix (.last (by simp)))
  have hthree : IsRun "3".toList ".45.1-alpha".toList := .of_all rfl (by decide) (by decide)
  have hfortyfive : IsRun "45".toList ".1-alpha".toList := .of_all rfl (by decide) (by decide)
  have hone : IsRun "1".toList "-alpha".toList := .of_all rfl (by decide) (by decide)
  have halpha : Shows ("3.45.1" ++ "-alpha").toList ["3".toList, "45".toList, "1".toList] "-alpha".toList :=
    .of_first (List.forall_mem_nil _) hthree (.next hfortyfive (.next hone .enough))
  have hrefused : ∃ e, parse "PostgreSQL 9.\u0664" = .error e :=
    (parse_banner.2.1 "PostgreSQL 9.\u0664").mpr
      (.inr ⟨_, _, hforeign, "\u0664".toList, by simp, fun h => absurd (h.2.1 _ List.mem_cons_self) (by decide)⟩)
  refine ⟨parse_banner.1 ⟨8, 0, 36⟩ "v" "-0ubuntu0.22.04.1" (forall_of_any (by decide)) (forall_of_head? (by decide)), ?_,
    ?_, ?_⟩
  case refine_1 =>
    obtain ⟨e, he⟩ := hrefused
    exact ⟨e, he, parse_banner.2.2.1 _ e he⟩
  case refine_2 =>
    have hnine : IsNumber "9".toList := ⟨by decide, List.all_eq_true.mp (by decide), by decide⟩
    have hsix : IsNumber "6".toList := ⟨by decide, List.all_eq_true.mp (by decide), by decide⟩
    exact parse_banner.2.2.2.1 _ _ _ hbeta (List.forall_mem_cons.mpr ⟨hnine, List.forall_mem_singleton.mpr hsix⟩)
  case refine_3 => exact parse_banner.2.2.2.2.2 "3.45.1" "-alpha" ".4 2024" _ rfl halpha (forall_of_head? (by decide))

end Version

end PolySql
