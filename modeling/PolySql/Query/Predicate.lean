import PolySql.Query.Equality

namespace PolySql

namespace Column

-- Whether two constants are equal; nothing is known of any other pair.
def constantsSame? : Column → Column → Option Bool
  | .param v, .param w => some (v.same w)
  | .literal v, .literal w => some (v.same w)
  | _, _ => none

end Column

namespace Predicate

def ofBool (b : Bool) : Predicate :=
  if b then .always else .never

-- The negation, with comparisons turned around.
def negated : Predicate → Predicate
  | .always => .never
  | .never => .always
  | .comparison op a b => .comparison op.negated a b
  | .not p => p
  | p => .not p

-- A comparison that is decided where both sides are the same, or two different constants.
def equal (a b : Column) : Predicate :=
  if a.same b then .always
  else match a.constantsSame? b with
    | some false => .never
    | _ => .comparison .eq a b

def notEqual (a b : Column) : Predicate :=
  (equal a b).negated

def oneOf (column : Column) : List Column → Predicate
  | [] => .never
  | list => .inList column list

def both (p q : Predicate) : Predicate :=
  match p, q with
  | .never, _ => .never
  | _, .never => .never
  | .always, q => q
  | p, .always => p
  | p, q => if p.same q then p else .and p q

def either (p q : Predicate) : Predicate :=
  match p, q with
  | .always, _ => .always
  | _, .always => .always
  | .never, q => q
  | p, .never => p
  | p, q => if p.same q then p else .or p q

def all (ps : List Predicate) : Predicate :=
  ps.foldl both .always

def any (ps : List Predicate) : Predicate :=
  ps.foldl either .never

def isNull (c : Column) : Predicate :=
  .comparison .eq c .null

def isNotNull (c : Column) : Predicate :=
  .comparison .ne c .null

def isAlways : Predicate → Bool
  | .always => true
  | _ => false

end Predicate

def Column.isNull : Column → Bool
  | .null => true
  | _ => false

-- A constant that stores nothing.
def Column.isNullConstant : Column → Bool
  | .null | .param .null => true
  | _ => false

def Select.filter (s : Select) (p : Predicate) : Select :=
  { s with predicate := s.predicate.both p }

end PolySql
