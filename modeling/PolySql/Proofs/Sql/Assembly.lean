import PolySql.Proofs.Sql.Seam
import Mathlib.Data.List.Chain

namespace PolySql

theorem Token.IsName.isSymbol_eq_false {t : Token} (h : t.IsName) (c : Char) : (Lexeme.token t).isSymbol c = false := by
  rw [Lexeme.isSymbol, beq_eq_false_iff_ne]
  rintro rfl
  rcases h with h | ⟨h, -⟩ <;> nomatch h

namespace Lexis

variable (l : Lexis)

-- The words can be read by themselves, have no placeholder, and turn `i` open parentheses into `j`.
def fits (i : Nat) (w : String) (j : Nat) : Bool :=
  match (l.tokens w.toList).map (·.filter (!·.isBlank)) with
  | some ts => ts.all (·.kind != .placeholder) && Lexeme.nesting i (ts.map .token) == some j
  | none => false

def opens (w : String) : Bool :=
  l.shape? w.toList == some .symbol

def closes (w : String) : Bool :=
  w.toList.head?.any boundaries.contains

-- Anything may follow the words.
def opening (i : Nat) (w : String) (j : Nat) : Bool :=
  l.fits i w j && l.opens w

-- The words may follow anything.
def closing (i : Nat) (w : String) (j : Nat) : Bool :=
  l.fits i w j && closes w

def joining (i : Nat) (w : String) (j : Nat) : Bool :=
  l.fits i w j && l.opens w && closes w

end Lexis

namespace Fragment

-- Anything may follow the fragment.
def Leads (d : Dialect) (f : Fragment) : Prop :=
  ∀ p ∈ f.getLast?, ∃ w, p = .words w ∧ d.lexis.opens w = true

-- The fragment may follow anything.
def Trails (f : Fragment) : Prop :=
  ∀ p ∈ f.head?, ∃ w, p = .words w ∧ Lexis.closes w = true

variable {d : Dialect} {i j m : Nat} {f g : Fragment} {w : String}

theorem Leads.nil : Leads d [] := by
  simp [Leads]

theorem Leads.append (hf : Leads d f) (hg : Leads d g) : Leads d (f ++ g) := by
  intro p hp
  rw [List.getLast?_append] at hp
  cases hl : g.getLast?
  case none => exact hf p (by simpa [hl] using hp)
  case some => exact hg p (by simpa [hl] using hp)

theorem Leads.words (h : d.lexis.opens w = true) (f : Fragment) : Leads d (f ++ words w) := by
  simpa [Leads, Fragment.words] using h

theorem Trails.nil : Trails [] := by
  simp [Trails]

theorem Trails.append (hf : Trails f) (hg : Trails g) : Trails (f ++ g) := by
  cases f
  case nil => exact hg
  case cons => exact hf

theorem Trails.words (h : Lexis.closes w = true) (f : Fragment) : Trails (words w ++ f) := by
  simpa [Trails, Fragment.words] using h

namespace Sound

theorem nil (d : Dialect) (i : Nat) : Sound d i [] i :=
  ⟨.nil, by simp, rfl⟩

theorem add (h : Sound d i f j) (k : Nat) : Sound d (i + k) f (j + k) :=
  ⟨h.chain, h.plain, Lexeme.nesting_add h.nesting k⟩

theorem within (h : Sound d 0 f 0) (i : Nat) : Sound d i f i := by
  simpa using h.add i

theorem append_of_seam (hf : Sound d i f m) (hg : Sound d m g j)
    (h : ∀ p ∈ f.getLast?, ∀ q ∈ g.head?, Piece.Seam d p q) : Sound d i (f ++ g) j where
  chain := List.isChain_append.mpr ⟨hf.chain, hg.chain, h⟩
  plain := List.forall_mem_append.mpr ⟨hf.plain, hg.plain⟩
  nesting := by
    rw [lexemes, List.flatMap_append, Lexeme.nesting_append, ← lexemes, hf.nesting]
    exact hg.nesting

theorem append (hf : Sound d i f m) (hg : Sound d m g j) (h : Leads d f ∨ Trails g) :
    Sound d i (f ++ g) j := by
  refine hf.append_of_seam hg fun p hp q hq => ?_
  rcases h with h | h
  case inl =>
    obtain ⟨w, rfl, h⟩ := h p hp
    exact .opening (by simpa [Lexis.opens] using h)
  case inr =>
    obtain ⟨w, rfl, h⟩ := h q hq
    obtain ⟨c, hc, hb⟩ := (Option.any_eq_true _ _).mp h
    exact .closing hc (by simpa using hb)

theorem words (h : d.lexis.fits i w j = true) : Sound d i (words w) j := by
  rw [Lexis.fits] at h
  split at h
  case h_1 ts ht =>
    simp only [Bool.and_eq_true, List.all_eq_true, bne_iff_ne, beq_iff_eq] at h
    refine ⟨.singleton _, ?_, ?_⟩
    · simpa [Fragment.words, Piece.IsPlain] using ⟨ts, ht, h.1⟩
    · obtain ⟨all, ha, rfl⟩ := Option.map_eq_some_iff.mp ht
      simpa [lexemes, Fragment.words, Piece.lexemes, Piece.text, ha] using h.2
  case h_2 => simp at h

theorem param (v : Value) (i : Nat) : Sound d i [.param v] i :=
  ⟨.singleton _, by simp [Piece.IsPlain], rfl⟩

variable (hd : d ∈ Dialect.builtins)

include hd

theorem phrase (hw : ∀ l ∈ Lexis.vendors, l.fits i w j = true) : Sound d i (Fragment.words w) j :=
  words (hw _ (Dialect.lexis_mem hd))

theorem after (hw : ∀ l ∈ Lexis.vendors, l.opening i w m = true) (hf : Sound d m f j) :
    Sound d i (Fragment.words w ++ f) j := by
  have hw := hw _ (Dialect.lexis_mem hd)
  rw [Lexis.opening, Bool.and_eq_true] at hw
  exact (words hw.1).append hf (.inl (.words hw.2 []))

theorem before (hf : Sound d i f m) (hw : ∀ l ∈ Lexis.vendors, l.closing m w j = true) :
    Sound d i (f ++ Fragment.words w) j := by
  have hw := hw _ (Dialect.lexis_mem hd)
  rw [Lexis.closing, Bool.and_eq_true] at hw
  exact hf.append (words hw.1) (.inr (.words hw.2 []))

theorem between (hf : Sound d i f m) (hw : ∀ l ∈ Lexis.vendors, l.joining m w k = true)
    (hg : Sound d k g j) : Sound d i (f ++ Fragment.words w ++ g) j := by
  have hw := hw _ (Dialect.lexis_mem hd)
  simp only [Lexis.joining, Bool.and_eq_true] at hw
  exact (hf.append (words hw.1.1) (.inr (.words hw.2 []))).append hg (.inl (.words hw.1.2 f))

theorem name (s : String) (i : Nat) : Sound d i [.name s] i := by
  obtain ⟨t, ht, hs, -⟩ := Dialect.spells_identifier hd s
  refine ⟨.singleton _, by simp [Piece.IsPlain], ?_⟩
  simp [lexemes, Piece.lexemes_of_spells (p := .name s) hs rfl, Lexeme.nesting, ht.isSymbol_eq_false]

-- A part of a table after the table's name.
theorem qualified (owner : String) (hf : Sound d i f i) : Sound d i (.name owner :: .words "." :: f) i := by
  have hw : ∀ l ∈ Lexis.vendors, l.fits 0 "." 0 = true ∧ l.opens "." = true := by decide
  have hdot := ((words (hw _ (Dialect.lexis_mem hd)).1).within i).append hf (.inl (.words (hw _ (Dialect.lexis_mem hd)).2 []))
  refine (name hd owner i).append_of_seam hdot ?_
  rintro _ ⟨⟩ _ ⟨⟩
  exact .point owner

theorem literal (v : Value) (i : Nat) : Sound d i [.literal v] i := by
  obtain ⟨ts, hs, ht⟩ := Dialect.constant_literal hd v
  refine ⟨.singleton _, by simp [Piece.IsPlain], ?_⟩
  rw [lexemes, List.flatMap_singleton, Piece.lexemes_of_spells (p := .literal v) hs rfl]
  cases ht <;> rfl

theorem enclosed (hf : Sound d 1 f 1) : Sound d 0 (Fragment.parenthesised f) 0 :=
  after hd (by decide) (before hd hf (by decide))

theorem parenthesised (hf : Sound d 0 f 0) : Sound d 0 (Fragment.parenthesised f) 0 :=
  enclosed hd (hf.within 1)

theorem joined {fs : List Fragment} (hw : ∀ l ∈ Lexis.vendors, l.joining i w i = true)
    (h : ∀ f ∈ fs, Sound d 0 f 0) : Sound d i (Fragment.joined w fs) i := by
  induction fs
  case nil => exact nil d i
  case cons f r ih =>
    rw [List.forall_mem_cons] at h
    cases r
    case nil => exact h.1.within i
    case cons g r =>
      have := between hd (h.1.within i) hw (ih h.2)
      simpa [Fragment.joined, Fragment.words] using this

end Sound

end Fragment

end PolySql
