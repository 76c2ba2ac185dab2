import PolySql.Proofs.Query.Datum
import PolySql.Query.Equality

namespace PolySql

-- The parameters and literals of an expression, each replaced by another value.

mutual

def Column.mapConstants (f : Value → Value) : Column → Column
  | .physical id a => .physical id a
  | .param v => .param (f v)
  | .literal v => .literal (f v)
  | .subSelect s => .subSelect (s.mapConstants f)
  | .star t => .star t
  | .null => .null
  | .function g => .function (g.mapConstants f)
termination_by structural x => x

def Column.mapAllConstants (f : Value → Value) : List Column → List Column
  | [] => []
  | a :: r => a.mapConstants f :: Column.mapAllConstants f r
termination_by structural x => x

def Function.mapConstants (f : Value → Value) : Function → Function
  | ⟨k, a, d, o⟩ => ⟨k, Column.mapAllConstants f a, d, Window.mapOptionConstants f o⟩
termination_by structural x => x

def Window.mapOptionConstants (f : Value → Value) : Option Window → Option Window
  | none => none
  | some a => some (a.mapConstants f)
termination_by structural x => x

def Window.mapConstants (f : Value → Value) : Window → Window
  | ⟨a, o⟩ => ⟨Column.mapAllConstants f a, OrderItem.mapAllConstants f o⟩
termination_by structural x => x

def OrderItem.mapConstants (f : Value → Value) : OrderItem → OrderItem
  | ⟨a, d⟩ => ⟨a.mapConstants f, d⟩
termination_by structural x => x

def OrderItem.mapAllConstants (f : Value → Value) : List OrderItem → List OrderItem
  | [] => []
  | a :: r => a.mapConstants f :: OrderItem.mapAllConstants f r
termination_by structural x => x

def Predicate.mapConstants (f : Value → Value) : Predicate → Predicate
  | .always => .always
  | .never => .never
  | .comparison op a b => .comparison op (a.mapConstants f) (b.mapConstants f)
  | .inList a l => .inList (a.mapConstants f) (Column.mapAllConstants f l)
  | .between a b c => .between (a.mapConstants f) (b.mapConstants f) (c.mapConstants f)
  | .like a b s => .like (a.mapConstants f) (b.mapConstants f) s
  | .startsWith a b => .startsWith (a.mapConstants f) (b.mapConstants f)
  | .endsWith a b => .endsWith (a.mapConstants f) (b.mapConstants f)
  | .existsRow s => .existsRow (s.mapConstants f)
  | .and p q => .and (p.mapConstants f) (q.mapConstants f)
  | .or p q => .or (p.mapConstants f) (q.mapConstants f)
  | .not p => .not (p.mapConstants f)
termination_by structural x => x

def Predicate.mapOptionConstants (f : Value → Value) : Option Predicate → Option Predicate
  | none => none
  | some a => some (a.mapConstants f)
termination_by structural x => x

def Table.mapConstants (f : Value → Value) : Table → Table
  | .physical id a => .physical id a
  | .join k a b p => .join k (a.mapConstants f) (b.mapConstants f) (p.mapConstants f)
  | .subSelect s a => .subSelect (s.mapConstants f) a
termination_by structural x => x

def Select.mapConstants (f : Value → Value) : Select → Select
  | ⟨t, c, d, p, g, h, o, from?, l, u⟩ =>
    ⟨t.mapConstants f, Column.mapAllConstants f c, d, p.mapConstants f, Column.mapOptionAllConstants f g,
      Predicate.mapOptionConstants f h, OrderItem.mapOptionAllConstants f o, from?, l, u⟩
termination_by structural x => x

def Column.mapOptionAllConstants (f : Value → Value) : Option (List Column) → Option (List Column)
  | none => none
  | some a => some (Column.mapAllConstants f a)
termination_by structural x => x

def OrderItem.mapOptionAllConstants (f : Value → Value) : Option (List OrderItem) → Option (List OrderItem)
  | none => none
  | some a => some (OrderItem.mapAllConstants f a)
termination_by structural x => x

end

theorem Column.mapAllConstants_eq_map (f : Value → Value) (l : List Column) :
    Column.mapAllConstants f l = l.map (·.mapConstants f) := by
  induction l
  case nil => rfl
  case cons a r ih => rw [mapAllConstants, ih, List.map_cons]

-- Expressions that are the same become one if values that are the same do.

section

variable {f : Value → Value} (hf : ∀ {v w}, v.same w = true → f v = f w)

include hf

-- The linter takes the theorems one by one, and only two of them use the hypothesis themselves.
set_option linter.unusedSectionVars false

mutual

theorem Column.mapConstants_eq_of_same : (a b : Column) → a.same b = true → a.mapConstants f = b.mapConstants f
  | .physical .., b, h => by
    cases b <;> simp_all [Column.same, Column.mapConstants]
  | .param v, b, h => by
    cases b <;> simp only [Column.same, Bool.false_eq_true] at h
    case param => simp only [Column.mapConstants, hf h]
  | .literal v, b, h => by
    cases b <;> simp only [Column.same, Bool.false_eq_true] at h
    case literal => simp only [Column.mapConstants, hf h]
  | .subSelect s, b, h => by
    cases b <;> simp only [Column.same, Bool.false_eq_true] at h
    case subSelect t => simp only [Column.mapConstants, Select.mapConstants_eq_of_same s t h]
  | .star .., b, h => by
    cases b <;> simp_all [Column.same, Column.mapConstants]
  | .null, b, h => by
    cases b <;> simp_all [Column.same, Column.mapConstants]
  | .function g, b, h => by
    cases b <;> simp only [Column.same, Bool.false_eq_true] at h
    case function k => simp only [Column.mapConstants, Function.mapConstants_eq_of_same g k h]
termination_by structural x => x

theorem Column.mapAllConstants_eq_of_same : (a b : List Column) → Column.allSame a b = true →
    Column.mapAllConstants f a = Column.mapAllConstants f b
  | [], [], _ => rfl
  | a :: r, b :: s, h => by
    rw [Column.allSame, Bool.and_eq_true] at h
    rw [Column.mapAllConstants, Column.mapAllConstants, Column.mapConstants_eq_of_same a b h.1,
      Column.mapAllConstants_eq_of_same r s h.2]
termination_by structural x => x

theorem Function.mapConstants_eq_of_same : (a b : Function) → a.same b = true → a.mapConstants f = b.mapConstants f
  | ⟨k, a, d, o⟩, ⟨l, b, e, p⟩, h => by
    simp only [Function.same, Bool.and_eq_true, beq_iff_eq] at h
    obtain ⟨⟨⟨rfl, ha⟩, rfl⟩, ho⟩ := h
    rw [Function.mapConstants, Function.mapConstants, Column.mapAllConstants_eq_of_same a b ha,
      Window.mapOptionConstants_eq_of_same o p ho]
termination_by structural x => x

theorem Window.mapOptionConstants_eq_of_same : (a b : Option Window) → Window.optionSame a b = true →
    Window.mapOptionConstants f a = Window.mapOptionConstants f b
  | none, none, _ => rfl
  | some a, some b, h => by
    rw [Window.optionSame] at h
    rw [Window.mapOptionConstants, Window.mapOptionConstants, Window.mapConstants_eq_of_same a b h]
termination_by structural x => x

theorem Window.mapConstants_eq_of_same : (a b : Window) → a.same b = true → a.mapConstants f = b.mapConstants f
  | ⟨a, o⟩, ⟨b, p⟩, h => by
    rw [Window.same, Bool.and_eq_true] at h
    rw [Window.mapConstants, Window.mapConstants, Column.mapAllConstants_eq_of_same a b h.1,
      OrderItem.mapAllConstants_eq_of_same o p h.2]
termination_by structural x => x

theorem OrderItem.mapConstants_eq_of_same : (a b : OrderItem) → a.same b = true →
    a.mapConstants f = b.mapConstants f
  | ⟨a, d⟩, ⟨b, e⟩, h => by
    simp only [OrderItem.same, Bool.and_eq_true, beq_iff_eq] at h
    rw [OrderItem.mapConstants, OrderItem.mapConstants, Column.mapConstants_eq_of_same a b h.1, h.2]
termination_by structural x => x

theorem OrderItem.mapAllConstants_eq_of_same : (a b : List OrderItem) → OrderItem.allSame a b = true →
    OrderItem.mapAllConstants f a = OrderItem.mapAllConstants f b
  | [], [], _ => rfl
  | a :: r, b :: s, h => by
    rw [OrderItem.allSame, Bool.and_eq_true] at h
    rw [OrderItem.mapAllConstants, OrderItem.mapAllConstants, OrderItem.mapConstants_eq_of_same a b h.1,
      OrderItem.mapAllConstants_eq_of_same r s h.2]
termination_by structural x => x

theorem Predicate.mapConstants_eq_of_same : (p q : Predicate) → p.same q = true →
    p.mapConstants f = q.mapConstants f
  | .always, q, h => by
    cases q <;> simp_all [Predicate.same]
  | .never, q, h => by
    cases q <;> simp_all [Predicate.same]
  | .comparison op a b, q, h => by
    cases q <;> simp only [Predicate.same, Bool.false_eq_true, Bool.and_eq_true, beq_iff_eq] at h
    case comparison _ c d =>
      rw [Predicate.mapConstants, Predicate.mapConstants, h.1.1, Column.mapConstants_eq_of_same a c h.1.2,
        Column.mapConstants_eq_of_same b d h.2]
  | .inList a l, q, h => by
    cases q <;> simp only [Predicate.same, Bool.false_eq_true, Bool.and_eq_true] at h
    case inList b m =>
      rw [Predicate.mapConstants, Predicate.mapConstants, Column.mapConstants_eq_of_same a b h.1,
        Column.mapAllConstants_eq_of_same l m h.2]
  | .between a b c, q, h => by
    cases q <;> simp only [Predicate.same, Bool.false_eq_true, Bool.and_eq_true] at h
    case between d e g =>
      rw [Predicate.mapConstants, Predicate.mapConstants, Column.mapConstants_eq_of_same a d h.1.1,
        Column.mapConstants_eq_of_same b e h.1.2, Column.mapConstants_eq_of_same c g h.2]
  | .like a b s, q, h => by
    cases q <;> simp only [Predicate.same, Bool.false_eq_true, Bool.and_eq_true, beq_iff_eq] at h
    case like c d _ =>
      rw [Predicate.mapConstants, Predicate.mapConstants, Column.mapConstants_eq_of_same a c h.1.1,
        Column.mapConstants_eq_of_same b d h.1.2, h.2]
  | .startsWith a b, q, h => by
    cases q <;> simp only [Predicate.same, Bool.false_eq_true, Bool.and_eq_true] at h
    case startsWith c d =>
      rw [Predicate.mapConstants, Predicate.mapConstants, Column.mapConstants_eq_of_same a c h.1,
        Column.mapConstants_eq_of_same b d h.2]
  | .endsWith a b, q, h => by
    cases q <;> simp only [Predicate.same, Bool.false_eq_true, Bool.and_eq_true] at h
    case endsWith c d =>
      rw [Predicate.mapConstants, Predicate.mapConstants, Column.mapConstants_eq_of_same a c h.1,
        Column.mapConstants_eq_of_same b d h.2]
  | .existsRow s, q, h => by
    cases q <;> simp only [Predicate.same, Bool.false_eq_true] at h
    case existsRow t => rw [Predicate.mapConstants, Predicate.mapConstants, Select.mapConstants_eq_of_same s t h]
  | .and p q, r, h => by
    cases r <;> simp only [Predicate.same, Bool.false_eq_true, Bool.and_eq_true] at h
    case and r s =>
      rw [Predicate.mapConstants, Predicate.mapConstants, Predicate.mapConstants_eq_of_same p r h.1,
        Predicate.mapConstants_eq_of_same q s h.2]
  | .or p q, r, h => by
    cases r <;> simp only [Predicate.same, Bool.false_eq_true, Bool.and_eq_true] at h
    case or r s =>
      rw [Predicate.mapConstants, Predicate.mapConstants, Predicate.mapConstants_eq_of_same p r h.1,
        Predicate.mapConstants_eq_of_same q s h.2]
  | .not p, q, h => by
    cases q <;> simp only [Predicate.same, Bool.false_eq_true] at h
    case not q => rw [Predicate.mapConstants, Predicate.mapConstants, Predicate.mapConstants_eq_of_same p q h]
termination_by structural x => x

theorem Predicate.mapOptionConstants_eq_of_same : (a b : Option Predicate) → Predicate.optionSame a b = true →
    Predicate.mapOptionConstants f a = Predicate.mapOptionConstants f b
  | none, none, _ => rfl
  | some a, some b, h => by
    rw [Predicate.optionSame] at h
    rw [Predicate.mapOptionConstants, Predicate.mapOptionConstants, Predicate.mapConstants_eq_of_same a b h]
termination_by structural x => x

theorem Table.mapConstants_eq_of_same : (t u : Table) → t.same u = true → t.mapConstants f = u.mapConstants f
  | .physical .., u, h => by
    cases u <;> simp_all [Table.same, Table.mapConstants]
  | .join k a b p, u, h => by
    cases u <;> simp only [Table.same, Bool.false_eq_true, Bool.and_eq_true, beq_iff_eq] at h
    case join _ c d q =>
      rw [Table.mapConstants, Table.mapConstants, h.1.1.1, Table.mapConstants_eq_of_same a c h.1.1.2,
        Table.mapConstants_eq_of_same b d h.1.2, Predicate.mapConstants_eq_of_same p q h.2]
  | .subSelect s a, u, h => by
    cases u <;> simp only [Table.same, Bool.false_eq_true, Bool.and_eq_true, beq_iff_eq] at h
    case subSelect t _ => rw [Table.mapConstants, Table.mapConstants, Select.mapConstants_eq_of_same s t h.1, h.2]
termination_by structural x => x

theorem Select.mapConstants_eq_of_same : (s t : Select) → s.same t = true → s.mapConstants f = t.mapConstants f
  | ⟨t, c, d, p, g, h, o, from?, l, u⟩, ⟨t', c', d', p', g', h', o', from?', l', u'⟩, hsame => by
    simp only [Select.same, Bool.and_eq_true, beq_iff_eq] at hsame
    obtain ⟨⟨⟨⟨⟨⟨⟨⟨⟨ht, hc⟩, rfl⟩, hp⟩, hg⟩, hh⟩, ho⟩, rfl⟩, rfl⟩, rfl⟩ := hsame
    rw [Select.mapConstants, Select.mapConstants, Table.mapConstants_eq_of_same t t' ht,
      Column.mapAllConstants_eq_of_same c c' hc, Predicate.mapConstants_eq_of_same p p' hp,
      Column.mapOptionAllConstants_eq_of_same g g' hg, Predicate.mapOptionConstants_eq_of_same h h' hh,
      OrderItem.mapOptionAllConstants_eq_of_same o o' ho]
termination_by structural x => x

theorem Column.mapOptionAllConstants_eq_of_same : (a b : Option (List Column)) → Column.optionAllSame a b = true →
    Column.mapOptionAllConstants f a = Column.mapOptionAllConstants f b
  | none, none, _ => rfl
  | some a, some b, h => by
    rw [Column.optionAllSame] at h
    rw [Column.mapOptionAllConstants, Column.mapOptionAllConstants, Column.mapAllConstants_eq_of_same a b h]
termination_by structural x => x

theorem OrderItem.mapOptionAllConstants_eq_of_same : (a b : Option (List OrderItem)) →
    OrderItem.optionAllSame a b = true → OrderItem.mapOptionAllConstants f a = OrderItem.mapOptionAllConstants f b
  | none, none, _ => rfl
  | some a, some b, h => by
    rw [OrderItem.optionAllSame] at h
    rw [OrderItem.mapOptionAllConstants, OrderItem.mapOptionAllConstants, OrderItem.mapAllConstants_eq_of_same a b h]
termination_by structural x => x

end

end

end PolySql
