import PolySql.Proofs.Sql.Quoting
import PolySql.Proofs.Sql.Spelling

namespace PolySql.Dialect

-- The name that a vendor makes of a word without quotes.
def nameOfWord (d : Dialect) (w : List Char) : List Char :=
  if d.name = "postgres" then w.map Char.toLower
  else if d.name = "oracle" then w.map Char.toUpper
  else w

-- Reads a name as the vendor does: what is between quotes is taken as it is, and any other name is a word, as
-- long as can be, that is not reserved.
def readName? (d : Dialect) (inWord : Char → Bool) : List Char → Option (List Char × List Char)
  | [] => none
  | c :: r =>
    match d.lexis.first c with
    | .quoted q => if q.kind = .name then q.inside r else none
    | .word =>
      let w := (c :: r).takeWhile inWord
      if d.isKeyword (.ofList w) then none else some (d.nameOfWord w, (c :: r).dropWhile inWord)
    | _ => none

variable {d : Dialect} {inWord : Char → Bool} {name : String} {s t : List Char}

theorem isLower_toUpper (h : isWordChar c = true) : ¬c.toUpper.isLower = true :=
  of_isWordChar (p := fun c => ¬c.toUpper.isLower = true) (by decide) h

theorem isUpper_toLower (h : isWordChar c = true) : ¬c.toLower.isUpper = true :=
  of_isWordChar (p := fun c => ¬c.toLower.isUpper = true) (by decide) h

theorem toLower_toLower (h : isWordChar c = true) : c.toLower.toLower = c.toLower :=
  of_isWordChar (p := fun c => c.toLower.toLower = c.toLower) (by decide) h

theorem isMixedCase_fold (h : isPlain s = true) :
    (d.identifierCase != .preserve && isMixedCase (d.fold s)) = false := by
  have h := all_of_isPlain h
  cases hcase : d.identifierCase <;> simp only [fold, hcase, isMixedCase]
  case preserve => rfl
  case upper =>
    have hlower : (s.map Char.toUpper).any Char.isLower = false := by
      rw [List.any_map, List.any_eq_false]
      exact fun c hc => isLower_toUpper (h c hc)
    rw [hlower, Bool.and_false, Bool.and_false]
  case lower =>
    have hupper : (s.map Char.toLower).any Char.isUpper = false := by
      rw [List.any_map, List.any_eq_false]
      exact fun c hc => isUpper_toLower (h c hc)
    rw [hupper, Bool.false_and, Bool.and_false]

theorem isKeyword_fold (h : isPlain name.toList = true) :
    d.isKeyword (.ofList (d.fold name.toList)) = d.isKeyword name := by
  rw [isKeyword, isKeyword, String.toList_ofList, upperWord_fold d h]

-- The name in the catalog would be written in the same way.
theorem needsQuotes_storedName (d : Dialect) (name : String) :
    d.needsQuotes (d.storedName name) = d.needsQuotes name := by
  rw [storedName]
  cases h : d.needsQuotes name
  case true => exact h
  case false =>
    simp only [needsQuotes, Bool.or_eq_false_iff, Bool.not_eq_false'] at h
    simp [needsQuotes, isPlain_fold d h.1.1, isKeyword_fold h.1.1, isMixedCase_fold h.1.1, h.1.2]

theorem toList_identifier (d : Dialect) (name : String) : (d.identifier name).toList =
    if d.needsQuotes (d.storedName name) then Text.enclosed d.openQuote d.closeQuote (d.storedName name).toList
    else (d.storedName name).toList := by
  rw [needsQuotes_storedName, identifier, storedName, String.toList_ofList]
  split <;> simp

theorem isPlain_of_not_needsQuotes (h : d.needsQuotes name = false) : isPlain name.toList = true := by
  simp only [needsQuotes, Bool.or_eq_false_iff, Bool.not_eq_false'] at h
  exact h.1.1

theorem isKeyword_of_not_needsQuotes (h : d.needsQuotes name = false) : d.isKeyword name = false := by
  simp only [needsQuotes, Bool.or_eq_false_iff] at h
  exact h.1.2

variable (hd : d ∈ builtins)

include hd

-- A word that has been folded is folded to itself.
theorem nameOfWord_fold (h : isPlain s = true) : d.nameOfWord (d.fold s) = d.fold s := by
  have h := all_of_isPlain h
  simp only [builtins, List.mem_cons, List.not_mem_nil, or_false] at hd
  rcases hd with rfl | rfl | rfl | rfl | rfl
  case inl => exact (List.map_map ..).trans (List.map_congr_left fun c hc => toLower_toLower (h c hc))
  case inr.inr.inr.inr => exact (List.map_map ..).trans (List.map_congr_left fun c hc => toUpper_toUpper (h c hc))
  all_goals rfl

theorem nameOfWord_storedName (h : d.needsQuotes name = false) :
    d.nameOfWord (d.storedName name).toList = (d.storedName name).toList := by
  simp [storedName, h, nameOfWord_fold hd (isPlain_of_not_needsQuotes h)]

theorem readName?_enclosed (s : List Char) (hr : t.head? ≠ some d.closeQuote) :
    d.readName? inWord (Text.enclosed d.openQuote d.closeQuote s ++ t) = some (s, t) := by
  obtain ⟨q, -, hq, hc, hk, he⟩ := exists_nameQuote hd
  rw [← hc] at hr
  have h := q.inside_doubled (s := s) (by simp [he]) hr
  simp [Text.enclosed, readName?, hq, hk, ← hc, h]

theorem readName?_plain (hs : isPlain s = true) (hk : d.isKeyword (.ofList s) = false)
    (hword : ∀ c, isWordChar c = true → inWord c = true) (hr : ∀ c ∈ t.head?, inWord c = false) :
    d.readName? inWord (s ++ t) = some (d.nameOfWord s, t) := by
  have hall : ∀ c ∈ s, inWord c = true := fun c hc => hword c (all_of_isPlain hs c hc)
  obtain ⟨htake, hdrop⟩ := Text.takeWhile_dropWhile_append hall hr
  cases s
  case nil => nomatch hs
  case cons c r =>
    simp only [isPlain, Bool.and_eq_true] at hs
    rw [List.cons_append] at htake hdrop ⊢
    simp only [readName?, first_of_isWordStart hd hs.1, htake, hdrop, hk]
    rfl

theorem readName?_toList_identifier (hword : ∀ c, isWordChar c = true → inWord c = true) (name : String)
    (hrest : ∀ c ∈ t.head?, c ≠ d.closeQuote ∧ inWord c = false) :
    d.readName? inWord ((d.identifier name).toList ++ t) = some ((d.storedName name).toList, t) := by
  rw [toList_identifier]
  cases h : d.needsQuotes (d.storedName name) <;> simp only [Bool.false_eq_true, if_true, if_false]
  case true => exact readName?_enclosed hd _ fun hr => (hrest _ hr).1 rfl
  case false =>
    have hplain := isPlain_of_not_needsQuotes h
    have hkey := isKeyword_of_not_needsQuotes h
    rw [readName?_plain hd hplain (by simpa using hkey) hword fun c hc => (hrest c hc).2, nameOfWord_storedName hd]
    exact (needsQuotes_storedName d name).symm.trans h

omit hd in
theorem isKeyword_identifier (h : (d.identifier name).toList.head? ≠ some d.openQuote) :
    d.isKeyword (d.identifier name) = false := by
  have hquotes : d.needsQuotes (d.storedName name) = false := by
    rw [toList_identifier] at h
    split at h
    case isTrue => exact absurd rfl h
    case isFalse hquotes => simpa using hquotes
  have hname : d.identifier name = d.storedName name := by
    simp [← String.toList_inj, toList_identifier, hquotes]
  rw [hname]
  exact isKeyword_of_not_needsQuotes hquotes

theorem identifier_eq_iff (a b : String) : d.identifier a = d.identifier b ↔ d.storedName a = d.storedName b := by
  constructor
  case mp =>
    intro h
    have hread (name) := readName?_toList_identifier hd (t := []) (fun _ => id) name nofun
    have ha := hread a
    rw [h, hread b, Option.some_inj, Prod.mk.injEq, String.toList_inj] at ha
    exact ha.1.symm
  case mpr =>
    intro h
    rw [← String.toList_inj, toList_identifier, toList_identifier, h]

-- Names come back from the text of a statement as they are in the catalog, words are read as long as can be by
-- what characters may be in them, and no word is reserved.
theorem readName?_identifier (hword : ∀ c, isWordChar c = true → inWord c = true) :
    (∀ name t, (∀ c ∈ t.head?, c ≠ d.closeQuote ∧ inWord c = false) →
      d.readName? inWord ((d.identifier name).toList ++ t) = some ((d.storedName name).toList, t)) ∧
    (∀ name, (d.identifier name).toList.head? ≠ some d.openQuote → d.isKeyword (d.identifier name) = false) ∧
    (∀ a b, d.identifier a = d.identifier b ↔ d.storedName a = d.storedName b) :=
  ⟨fun name _ => readName?_toList_identifier hd hword name, fun _ => isKeyword_identifier, identifier_eq_iff hd⟩

omit hd in
theorem readName?_order_people :
    oracle.readName? Shape.isNameChar ("\"order\"\"\"".toList ++ ".id".toList) =
        some ("order\"".toList, ".id".toList) ∧
      oracle.readName? Shape.isNameChar ("PEOPLE".toList ++ ".id".toList) = some ("PEOPLE".toList, ".id".toList) ∧
      oracle.isKeyword (oracle.identifier "people") = false ∧
      oracle.identifier "people" = oracle.identifier "PEOPLE" := by
  obtain ⟨hread, hkeyword, hsame⟩ :=
    readName?_identifier (d := oracle) (by simp [builtins]) fun _ => isNameChar_of_isWordChar
  have horder : oracle.identifier "order\"" = "\"order\"\"\"" ∧ oracle.storedName "order\"" = "order\"" := by decide
  have hpeople : oracle.identifier "people" = "PEOPLE" ∧ oracle.storedName "people" = "PEOPLE" := by decide
  refine ⟨?_, ?_, hkeyword "people" (by decide), (hsame _ _).mpr (by decide)⟩
  · have := hread "order\"" ".id".toList (by rintro _ ⟨⟩; decide)
    rwa [horder.1, horder.2] at this
  · have := hread "people" ".id".toList (by rintro _ ⟨⟩; decide)
    rwa [hpeople.1, hpeople.2] at this

end PolySql.Dialect
