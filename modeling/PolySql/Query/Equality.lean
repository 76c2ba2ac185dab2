import PolySql.Query.Basic

namespace PolySql

-- Equality of expressions, in which values are compared as the application sees them.

mutual

def Column.same : Column → Column → Bool
  | .physical i a, .physical j b => i == j && a == b
  | .param v, .param w => v.same w
  | .literal v, .literal w => v.same w
  | .subSelect s, .subSelect t => s.same t
  | .star t, .star u => t == u
  | .null, .null => true
  | .function f, .function g => f.same g
  | _, _ => false
termination_by structural x => x

def Column.allSame : List Column → List Column → Bool
  | [], [] => true
  | a :: r, b :: s => a.same b && Column.allSame r s
  | _, _ => false
termination_by structural x => x

def Function.same : Function → Function → Bool
  | ⟨k, a, d, o⟩, ⟨l, b, e, p⟩ =>
    k == l && Column.allSame a b && d == e && Window.optionSame o p
termination_by structural x => x

def Window.optionSame : Option Window → Option Window → Bool
  | none, none => true
  | some a, some b => a.same b
  | _, _ => false
termination_by structural x => x

def Window.same : Window → Window → Bool
  | ⟨a, o⟩, ⟨b, p⟩ => Column.allSame a b && OrderItem.allSame o p
termination_by structural x => x

def OrderItem.same : OrderItem → OrderItem → Bool
  | ⟨a, d⟩, ⟨b, e⟩ => a.same b && d == e
termination_by structural x => x

def OrderItem.allSame : List OrderItem → List OrderItem → Bool
  | [], [] => true
  | a :: r, b :: s => a.same b && OrderItem.allSame r s
  | _, _ => false
termination_by structural x => x

def Predicate.same : Predicate → Predicate → Bool
  | .always, .always => true
  | .never, .never => true
  | .comparison o a b, .comparison p c d => o == p && a.same c && b.same d
  | .inList a l, .inList b m => a.same b && Column.allSame l m
  | .between a b c, .between d e f => a.same d && b.same e && c.same f
  | .like a b s, .like c d t => a.same c && b.same d && s == t
  | .startsWith a b, .startsWith c d => a.same c && b.same d
  | .endsWith a b, .endsWith c d => a.same c && b.same d
  | .existsRow s, .existsRow t => s.same t
  | .and p q, .and r s => p.same r && q.same s
  | .or p q, .or r s => p.same r && q.same s
  | .not p, .not q => p.same q
  | _, _ => false
termination_by structural x => x

def Predicate.optionSame : Option Predicate → Option Predicate → Bool
  | none, none => true
  | some a, some b => a.same b
  | _, _ => false
termination_by structural x => x

def Table.same : Table → Table → Bool
  | .physical i a, .physical j b => i == j && a == b
  | .join k a b p, .join l c d q => k == l && a.same c && b.same d && p.same q
  | .subSelect s a, .subSelect t b => s.same t && a == b
  | _, _ => false
termination_by structural x => x

def Select.same : Select → Select → Bool
  | ⟨t, c, d, p, g, h, o, f, l, u⟩, ⟨t', c', d', p', g', h', o', f', l', u'⟩ =>
    t.same t' && Column.allSame c c' && d == d' && p.same p' && Column.optionAllSame g g' &&
      Predicate.optionSame h h' && OrderItem.optionAllSame o o' && f == f' && l == l' && u == u'
termination_by structural x => x

def Column.optionAllSame : Option (List Column) → Option (List Column) → Bool
  | none, none => true
  | some a, some b => Column.allSame a b
  | _, _ => false
termination_by structural x => x

def OrderItem.optionAllSame : Option (List OrderItem) → Option (List OrderItem) → Bool
  | none, none => true
  | some a, some b => OrderItem.allSame a b
  | _, _ => false
termination_by structural x => x

end

end PolySql
