import Mathlib.Data.Fintype.Option
import PolySql.Proofs.Sql.Seam

namespace PolySql

-- What a list stands after.
inductive Opener
  | select
  | by
  | set
  | returning
  | parenthesis
  | comma
  deriving DecidableEq

instance : Fintype Opener :=
  ⟨{.select, .by, .set, .returning, .parenthesis, .comma}, fun o => by cases o <;> decide⟩

-- What a token is to a reader of lists.
inductive Cue
  | opens (o : Opener)
  | closing
  -- a word with which another part of the statement begins
  | clause
  -- a word ahead of the first item of a list
  | ahead
  -- the word for a limit ahead of a list
  | top
  -- a word in whose parentheses there need not be a list
  | bare
  | item
  deriving DecidableEq

-- Does the list before it end?
def Opener.ends : Opener → Bool
  | comma | returning => true
  | _ => false

namespace Cue

def words : List (String × Cue) :=
  [("SELECT", opens .select), ("BY", opens .by), ("SET", opens .set), ("KEY", opens .set),
    ("RETURNING", opens .returning), ("FROM", clause), ("WHERE", clause), ("GROUP", clause), ("HAVING", clause),
    ("PARTITION", clause), ("ORDER", clause), ("LIMIT", clause), ("OFFSET", clause), ("FETCH", clause), ("FOR", clause),
    ("ON", clause), ("DISTINCT", ahead), ("UPDATE", ahead), ("TOP", top), ("OVER", bare), ("ROW_NUMBER", bare)]

def symbols : List (String × Cue) :=
  [("(", opens .parenthesis), (")", closing), (",", opens .comma)]

end Cue

def Token.cue (t : Token) : Cue :=
  match t.kind with
  | .word => (Cue.words.lookup (Dialect.upperWord t.chars)).getD .item
  | .symbol => (Cue.symbols.lookup (.ofList t.chars)).getD .item
  | _ => .item

-- How far a reader of lists has come. An item of a list may be due.
inductive Survey
  | list (due : Option Opener)
  | top (due : Option Opener)
  | bare
  deriving DecidableEq

namespace Survey

def due? : Survey → Option Opener
  | list due => due
  | _ => none

-- The list that turns out to be empty at a cue, and how the reading goes on.
def step : Survey → Cue → Option Opener × Survey
  | top due, .closing => (none, list due)
  | top due, _ => (none, top due)
  | bare, .opens .parenthesis => (none, list none)
  | s, .opens o => (if o.ends then s.due? else none, list (some o))
  | s, .closing | s, .clause => (s.due?, list none)
  | s, .ahead => (none, s)
  | s, .top => (none, top s.due?)
  | _, .bare => (none, bare)
  | _, .item => (none, list none)

-- The empty lists by what stands before them.
def scan : Survey → List Cue → List Opener × Survey
  | s, [] => ([], s)
  | s, m :: r => ((s.step m).1.toList ++ (scan (s.step m).2 r).1, (scan (s.step m).2 r).2)

theorem scan_append (s : Survey) (a b : List Cue) :
    s.scan (a ++ b) = ((s.scan a).1 ++ ((s.scan a).2.scan b).1, ((s.scan a).2.scan b).2) := by
  induction a generalizing s
  case nil => rfl
  case cons m r ih => simp only [List.cons_append, scan, ih, List.append_assoc]

end Survey

-- The empty lists of a statement in the order of its text.
def Cue.gaps (ms : List Cue) : List Opener :=
  let (gaps, s) := (Survey.list none).scan ms
  gaps ++ s.due?.toList

def Lexis.cues (l : Lexis) (w : String) : List Cue :=
  (l.words w).map Token.cue

namespace Survey

-- To all vendors the words begin with an item, whatever one is due, and then the given one is due.
abbrev Takes (w : String) (o : Option Opener) : Prop :=
  ∀ l ∈ Lexis.vendors, ∀ due, (list due).scan (l.cues w) = ([], list o)

-- To all vendors the words end the list before them, and then the given item is due.
abbrev Breaks (w : String) (o : Option Opener) : Prop :=
  ∀ l ∈ Lexis.vendors, ∀ due, (list due).scan (l.cues w) = (due.toList, list o)

-- To all vendors the words stand between two items, and then the given one is due.
abbrev Separates (w : String) (o : Option Opener) : Prop :=
  ∀ l ∈ Lexis.vendors, (list none).scan (l.cues w) = ([], list o)

theorem separates_comma : Separates ", " (some .comma) := by
  decide

end Survey

-- Names, constants and parameters are items.
def Piece.cues (d : Dialect) : Piece → List Cue
  | words w => d.lexis.cues w
  | name _ | literal _ | param _ => [.item]

-- The lists that have nothing in them: after `GROUP BY`, after `ORDER BY`, in a call, and in a row.
inductive Hollow
  | grouping
  | ordering
  | call
  | row
  deriving DecidableEq

def Hollow.opener : Hollow → Opener
  | grouping | ordering => .by
  | call | row => .parenthesis

-- A list is hollow itself, or has what is hollow in its items.
def Hollow.ofList (h : Hollow) : List (List Hollow) → List Hollow
  | [] => [h]
  | hs => hs.flatten

namespace Fragment

def cues (d : Dialect) (f : Fragment) : List Cue :=
  f.flatMap (·.cues d)

-- A reader gets over the fragment, and finds these lists empty.
def Reads (d : Dialect) (s : Survey) (f : Fragment) (gaps : List Opener) (s' : Survey) : Prop :=
  s.scan (f.cues d) = (gaps, s')

-- The fragment may stand before the first item of a list.
def Keeps (d : Dialect) (f : Fragment) : Prop :=
  ∀ due, Reads d (.list due) f [] (.list due)

-- Whatever item is due, the fragment begins with one, and then another one is due.
def Opens (d : Dialect) (f : Fragment) (o : Option Opener) : Prop :=
  ∀ due, Reads d (.list due) f [] (.list o)

-- Whatever item is due, the fragment is one.
def Fills (d : Dialect) (f : Fragment) (hs : List Hollow) : Prop :=
  ∀ due, Reads d (.list due) f (hs.map Hollow.opener) (.list none)

-- Where one item is due, these lists of the fragment are empty. The last of them may be at its end.
def Finds (d : Dialect) (due : Option Opener) (f : Fragment) (gaps : List Opener) : Prop :=
  ∃ before due', Reads d (.list due) f before (.list due') ∧ before ++ due'.toList = gaps

-- The fragment begins with an item, whatever one is due.
def Heads (d : Dialect) (f : Fragment) (hs : List Hollow) : Prop :=
  ∀ due, Finds d due f (hs.map Hollow.opener)

-- The list before the fragment has no more items.
def Ends (d : Dialect) (f : Fragment) (hs : List Hollow) : Prop :=
  ∀ due, Reads d (.list due) f (due.toList ++ hs.map Hollow.opener) (.list none)

-- The fragment is left out or ends the list before it.
def Adds (d : Dialect) (f : Fragment) (hs : List Hollow) : Prop :=
  ∀ due, Finds d due f (due.toList ++ hs.map Hollow.opener)

variable {d : Dialect} {f g : Fragment} {hs hs' : List Hollow} {w : String} {o due : Option Opener}
variable {gaps gaps' : List Opener}

theorem cues_append (d : Dialect) (f g : Fragment) : (f ++ g).cues d = f.cues d ++ g.cues d :=
  List.flatMap_append

theorem Reads.append {s s' s'' : Survey} (hf : Reads d s f gaps s')
    (hg : Reads d s' g gaps' s'') : Reads d s (f ++ g) (gaps ++ gaps') s'' := by
  rw [Reads, cues_append, Survey.scan_append, hf, hg]

theorem reads_words {s s' : Survey} :
    Reads d s (words w) gaps s' ↔ s.scan (d.lexis.cues w) = (gaps, s') := by
  rw [Reads, cues, words, List.flatMap_singleton, Piece.cues]

-- The words of the statements, which all vendors read alike.
theorem Reads.words {s s' : Survey} (hw : ∀ l ∈ Lexis.vendors, s.scan (l.cues w) = (gaps, s')) :
    Reads d s (words w) gaps s' :=
  reads_words.mpr (hw _ d.lexis_mem_vendors)

theorem Reads.finds (h : Reads d (.list due) f gaps (.list none)) : Finds d due f gaps :=
  ⟨gaps, none, h, List.append_nil _⟩

theorem Reads.append_finds (hf : Reads d (.list due) f gaps (.list o)) (hg : Finds d o g gaps') :
    Finds d due (f ++ g) (gaps ++ gaps') := by
  obtain ⟨before, due', hr, rfl⟩ := hg
  exact ⟨gaps ++ before, due', hf.append hr, List.append_assoc ..⟩

theorem Finds.append (hf : Finds d due f gaps) (hg : Adds d g hs) :
    Finds d due (f ++ g) (gaps ++ hs.map Hollow.opener) := by
  obtain ⟨before, due', hr, rfl⟩ := hf
  rw [List.append_assoc]
  exact hr.append_finds (hg due')

theorem Finds.gaps_eq (h : Finds d none f gaps) : Cue.gaps (f.cues d) = gaps := by
  obtain ⟨before, due', hr, rfl⟩ := h
  rw [Cue.gaps, hr]
  rfl

theorem Fills.heads (h : Fills d f hs) : Heads d f hs :=
  fun due => (h due).finds

theorem Fills.append (hf : Fills d f hs) (hg : Fills d g hs') : Fills d (f ++ g) (hs ++ hs') := by
  intro due
  rw [List.map_append]
  exact (hf due).append (hg none)

theorem Fills.after (hf : Opens d f o) (hg : Fills d g hs) : Fills d (f ++ g) hs :=
  fun due => (hf due).append (hg o)

theorem Heads.after (hf : Opens d f o) (hg : Finds d o g (hs.map Hollow.opener)) : Heads d (f ++ g) hs :=
  fun due => (hf due).append_finds hg

theorem Heads.append (hf : Heads d f hs) (hg : Adds d g hs') : Heads d (f ++ g) (hs ++ hs') := by
  intro due
  rw [List.map_append]
  exact (hf due).append hg

theorem Heads.append_ends (hf : Heads d f hs) (hg : Ends d g hs') : Fills d (f ++ g) (hs ++ hs') := by
  intro due
  obtain ⟨before, due', hr, h⟩ := hf due
  rw [List.map_append, ← h, List.append_assoc]
  exact hr.append (hg due')

theorem Ends.adds (h : Ends d f hs) : Adds d f hs :=
  fun due => (h due).finds

theorem Ends.append (hf : Ends d f hs) (hg : Reads d (.list none) g (hs'.map Hollow.opener) (.list none)) :
    Ends d (f ++ g) (hs ++ hs') := by
  intro due
  rw [List.map_append, ← List.append_assoc]
  exact (hf due).append hg

theorem Adds.nil (d : Dialect) : Adds d [] [] :=
  fun due => ⟨[], due, rfl, (List.append_nil _).symm⟩

theorem Adds.append (hf : Adds d f hs) (hg : Adds d g hs') : Adds d (f ++ g) (hs ++ hs') := by
  intro due
  rw [List.map_append, ← List.append_assoc]
  exact (hf due).append hg

theorem Adds.append_nil (hf : Adds d f []) (hg : Adds d g hs) : Adds d (f ++ g) hs :=
  hf.append hg

theorem Keeps.nil (d : Dialect) : Keeps d [] :=
  fun _ => rfl

theorem Keeps.adds (h : Keeps d f) : Adds d f [] :=
  fun due => ⟨[], due, h due, (List.append_nil _).symm⟩

theorem Opens.append (hf : Opens d f o) (hg : Keeps d g) : Opens d (f ++ g) o :=
  fun due => (hf due).append (hg o)

theorem Fills.name (d : Dialect) (s : String) : Fills d (name s) [] :=
  fun _ => rfl

theorem Fills.param (d : Dialect) (v : Value) : Fills d [.param v] [] :=
  fun _ => rfl

theorem Fills.literal (d : Dialect) (v : Value) : Fills d [.literal v] [] :=
  fun _ => rfl

section

variable (d)

theorem Keeps.words (hw : ∀ l ∈ Lexis.vendors, ∀ due, (Survey.list due).scan (l.cues w) = ([], .list due)) :
    Keeps d (words w) :=
  fun due => .words fun l hl => hw l hl due

theorem Opens.words (hw : Survey.Takes w o) : Opens d (words w) o :=
  fun due => .words fun l hl => hw l hl due

theorem Fills.words (hw : Survey.Takes w none) : Fills d (words w) [] :=
  Opens.words d hw

theorem Ends.words (hw : Survey.Breaks w none) : Ends d (words w) [] := by
  intro due
  rw [List.map_nil, List.append_nil]
  exact .words fun l hl => hw l hl due

end

theorem Ends.after (o : Option Opener) (hw : Survey.Breaks w o) (hf : Fills d f hs) :
    Ends d (Fragment.words w ++ f) hs :=
  fun due => (Reads.words fun l hl => hw l hl due).append (hf o)

theorem Adds.after (o : Option Opener) (hw : Survey.Breaks w o) (hf : Finds d o f (hs.map Hollow.opener)) :
    Adds d (Fragment.words w ++ f) hs :=
  fun due => (Reads.words fun l hl => hw l hl due).append_finds hf

theorem Keeps.blank (d : Dialect) : Keeps d (Fragment.words " ") :=
  .words d (by decide)

theorem Ends.blank (h : Ends d f hs) : Ends d (Fragment.words " " ++ f) hs :=
  fun due => (Keeps.blank d due).append (h due)

theorem Adds.blank (h : Adds d f hs) : Adds d (Fragment.words " " ++ f) hs :=
  (Keeps.blank d).adds.append h

theorem Fills.between (hf : Fills d f hs) (hw : Survey.Takes w none) (hg : Fills d g hs') :
    Fills d (f ++ Fragment.words w ++ g) (hs ++ hs') := by
  simpa using (hf.append (.words d hw)).append hg

theorem Fills.before (hf : Fills d f hs) (hw : Survey.Takes w none) : Fills d (f ++ Fragment.words w) hs := by
  simpa using hf.append (.words d hw)

theorem Opens.parenthesis (d : Dialect) : Opens d (Fragment.words "(") (some .parenthesis) :=
  .words d (by decide)

theorem Fills.closed (h : Heads d f hs) : Fills d (f ++ Fragment.words ")") hs := by
  simpa using h.append_ends (.words d (by decide))

theorem Fills.parenthesised (h : Finds d (some .parenthesis) f (hs.map Hollow.opener)) : Fills d (parenthesised f) hs :=
  .closed (.after (.parenthesis d) h)

-- The items of a list, and what is hollow in each of them.
abbrev FillAll (d : Dialect) (fs : List Fragment) (hss : List (List Hollow)) : Prop :=
  List.Forall₂ (Fills d) fs hss

namespace FillAll

variable {fs : List Fragment} {hss : List (List Hollow)}

-- The items may have any words between them that begin no list.
theorem joined (hw : Survey.Separates w o) (h : FillAll d fs hss) (hne : hss ≠ []) :
    Fills d (Fragment.joined w fs) hss.flatten := by
  induction h
  case nil => exact absurd rfl hne
  case cons f hs fs hss hf hfs ih =>
    intro due
    cases hfs
    case nil => simpa [Fragment.joined] using hf due
    case cons hg hfs =>
      simpa [Fragment.joined, Fragment.words] using ((hf due).append (.words hw)).append (ih (List.cons_ne_nil _ _) o)

-- A list of which an item is due.
theorem finds (h : Hollow) (hw : Survey.Separates w o) (hfs : FillAll d fs hss) :
    Finds d (some h.opener) (Fragment.joined w fs) ((h.ofList hss).map Hollow.opener) := by
  cases hfs
  case nil => exact ⟨[], some h.opener, rfl, rfl⟩
  case cons hf hfs => exact (joined hw (.cons hf hfs) nofun _).finds

-- A list that is left out with the words before it where it has no items.
theorem adds_unless_empty (hw : Survey.Breaks w o) (h : FillAll d fs hss) :
    Adds d (if fs.isEmpty then [] else Fragment.words w ++ Fragment.joined ", " fs) hss.flatten := by
  cases h
  case nil => exact .nil d
  case cons hf hfs => exact .after o hw ((joined Survey.separates_comma (.cons hf hfs) nofun).heads o)

end FillAll

theorem fills_joined_of_forall {fs : List Fragment} (h : ∀ f ∈ fs, Fills d f []) (hne : fs ≠ []) :
    Fills d (joined ", " fs) [] := by
  have hall : FillAll d fs (fs.map fun _ => []) :=
    List.forall₂_map_right_iff.mpr (List.forall₂_same.mpr h)
  simpa using hall.joined Survey.separates_comma (by simpa using hne)

end Fragment

end PolySql
