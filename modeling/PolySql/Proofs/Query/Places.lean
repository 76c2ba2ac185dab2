import PolySql.Query.Render

namespace PolySql

-- The places in a query and in its parts at which a query stands. With a place the rest of what it lies in is given.

mutual

inductive Column.Place
  | subSelect (p : Select.Place)
  | function (p : Function.Place)

inductive Function.Place
  | argument (kind : FunctionKind) (before : List Column) (p : Column.Place) (after : List Column) (distinct : Bool)
    (window : Option Window)
  | window (kind : FunctionKind) (args : List Column) (distinct : Bool) (p : Window.Place)

inductive Window.Place
  | partition (before : List Column) (p : Column.Place) (after : List Column) (order : List OrderItem)
  | order (partition : List Column) (before : List OrderItem) (p : Column.Place) (direction : Direction)
    (after : List OrderItem)

inductive Predicate.Place
  | comparisonLeft (op : Comparison) (p : Column.Place) (right : Column)
  | comparisonRight (op : Comparison) (left : Column) (p : Column.Place)
  | inColumn (p : Column.Place) (list : List Column)
  | inItem (column : Column) (before : List Column) (p : Column.Place) (after : List Column)
  | betweenColumn (p : Column.Place) (low high : Column)
  | betweenLow (column : Column) (p : Column.Place) (high : Column)
  | betweenHigh (column low : Column) (p : Column.Place)
  | likeColumn (p : Column.Place) (pattern : Column) (caseSensitive : Bool)
  | likePattern (column : Column) (p : Column.Place) (caseSensitive : Bool)
  | startsWithColumn (p : Column.Place) (text : Column)
  | startsWithText (column : Column) (p : Column.Place)
  | endsWithColumn (p : Column.Place) (text : Column)
  | endsWithText (column : Column) (p : Column.Place)
  | existsRow (p : Select.Place)
  | andLeft (p : Predicate.Place) (right : Predicate)
  | andRight (left : Predicate) (p : Predicate.Place)
  | orLeft (p : Predicate.Place) (right : Predicate)
  | orRight (left : Predicate) (p : Predicate.Place)
  | not (p : Predicate.Place)

inductive Table.Place
  | joinLeft (kind : JoinKind) (p : Table.Place) (right : Table) (condition : Predicate)
  | joinRight (kind : JoinKind) (left : Table) (p : Table.Place) (condition : Predicate)
  | joinOn (kind : JoinKind) (left right : Table) (p : Predicate.Place)
  | subSelect (p : Select.Place) (aliasName : String)

-- The part of the outer query in which the place lies is overwritten.
inductive Select.Place
  | here
  | table (outer : Select) (p : Table.Place)
  | column (outer : Select) (before : List Column) (p : Column.Place) (after : List Column)
  | predicate (outer : Select) (p : Predicate.Place)
  | grouping (outer : Select) (before : List Column) (p : Column.Place) (after : List Column)
  | having (outer : Select) (p : Predicate.Place)
  | order (outer : Select) (before : List OrderItem) (p : Column.Place) (direction : Direction) (after : List OrderItem)

end

mutual

def Column.Place.fill (s : Select) : Column.Place → Column
  | .subSelect p => .subSelect (p.fill s)
  | .function p => .function (p.fill s)

def Function.Place.fill (s : Select) : Function.Place → Function
  | .argument kind before p after distinct window => ⟨kind, before ++ p.fill s :: after, distinct, window⟩
  | .window kind args distinct p => ⟨kind, args, distinct, some (p.fill s)⟩

def Window.Place.fill (s : Select) : Window.Place → Window
  | .partition before p after order => ⟨before ++ p.fill s :: after, order⟩
  | .order partition before p direction after => ⟨partition, before ++ ⟨p.fill s, direction⟩ :: after⟩

def Predicate.Place.fill (s : Select) : Predicate.Place → Predicate
  | .comparisonLeft op p right => .comparison op (p.fill s) right
  | .comparisonRight op left p => .comparison op left (p.fill s)
  | .inColumn p list => .inList (p.fill s) list
  | .inItem column before p after => .inList column (before ++ p.fill s :: after)
  | .betweenColumn p low high => .between (p.fill s) low high
  | .betweenLow column p high => .between column (p.fill s) high
  | .betweenHigh column low p => .between column low (p.fill s)
  | .likeColumn p pattern caseSensitive => .like (p.fill s) pattern caseSensitive
  | .likePattern column p caseSensitive => .like column (p.fill s) caseSensitive
  | .startsWithColumn p text => .startsWith (p.fill s) text
  | .startsWithText column p => .startsWith column (p.fill s)
  | .endsWithColumn p text => .endsWith (p.fill s) text
  | .endsWithText column p => .endsWith column (p.fill s)
  | .existsRow p => .existsRow (p.fill s)
  | .andLeft p right => .and (p.fill s) right
  | .andRight left p => .and left (p.fill s)
  | .orLeft p right => .or (p.fill s) right
  | .orRight left p => .or left (p.fill s)
  | .not p => .not (p.fill s)

def Table.Place.fill (s : Select) : Table.Place → Table
  | .joinLeft kind p right condition => .join kind (p.fill s) right condition
  | .joinRight kind left p condition => .join kind left (p.fill s) condition
  | .joinOn kind left right p => .join kind left right (p.fill s)
  | .subSelect p aliasName => .subSelect (p.fill s) aliasName

def Select.Place.fill (s : Select) : Select.Place → Select
  | .here => s
  | .table outer p => { outer with table := p.fill s }
  | .column outer before p after => { outer with columns := before ++ p.fill s :: after }
  | .predicate outer p => { outer with predicate := p.fill s }
  | .grouping outer before p after => { outer with groupBy := some (before ++ p.fill s :: after) }
  | .having outer p => { outer with having := some (p.fill s) }
  | .order outer before p direction after =>
    { outer with orderBy := some (before ++ ⟨p.fill s, direction⟩ :: after) }

end

-- Is what stands at the place written at all? The current time is written without its arguments, and of a test for
-- membership in an empty list only its outcome.

mutual

def Column.Place.isWritten : Column.Place → Bool
  | .subSelect p => p.isWritten
  | .function p => p.isWritten

def Function.Place.isWritten : Function.Place → Bool
  | .argument kind _ p _ _ _ => Function.rendersArguments kind && p.isWritten
  | .window _ _ _ p => p.isWritten

def Window.Place.isWritten : Window.Place → Bool
  | .partition _ p _ _ | .order _ _ p _ _ => p.isWritten

def Predicate.Place.isWritten : Predicate.Place → Bool
  | .inColumn p list => !list.isEmpty && p.isWritten
  | .comparisonLeft _ p _ | .comparisonRight _ _ p | .inItem _ _ p _ | .betweenColumn p _ _ | .betweenLow _ p _
  | .betweenHigh _ _ p | .likeColumn p _ _ | .likePattern _ p _ | .startsWithColumn p _ | .startsWithText _ p
  | .endsWithColumn p _ | .endsWithText _ p => p.isWritten
  | .existsRow p => p.isWritten
  | .andLeft p _ | .andRight _ p | .orLeft p _ | .orRight _ p | .not p => p.isWritten

def Table.Place.isWritten : Table.Place → Bool
  | .joinLeft _ p _ _ | .joinRight _ _ p _ => p.isWritten
  | .joinOn _ _ _ p => p.isWritten
  | .subSelect p _ => p.isWritten

def Select.Place.isWritten : Select.Place → Bool
  | .here => true
  | .table _ p => p.isWritten
  | .column _ _ p _ | .grouping _ _ p _ | .order _ _ p _ _ => p.isWritten
  | .predicate _ p | .having _ p => p.isWritten

end

-- The queries whose first column is of the given type.
abbrev Select.OfType (c : Catalog) (type : Option ColumnType) : Type :=
  {s : Select // s.firstType? c = type}

-- What is written around a query hangs on its type only.

mutual

theorem Column.Place.type?_fill (c : Catalog) (type : Option ColumnType) (p : Column.Place) :
    ∃ t, ∀ s : Select.OfType c type, (p.fill s).type? c = t := by
  cases p
  case subSelect p => exact p.firstType?_fill c type
  case function p => exact p.resultType?_fill c type
termination_by structural p

theorem Function.Place.resultType?_fill (c : Catalog) (type : Option ColumnType) (p : Function.Place) :
    ∃ t, ∀ s : Select.OfType c type, (p.fill s).resultType? c = t := by
  cases p
  case argument kind before p after distinct window =>
    obtain ⟨t, ht⟩ := p.type?_fill c type
    cases before
    case nil => exact ⟨if kind.keepsType then t else none, fun s => by rw [← ht s]; rfl⟩
    case cons a r => exact ⟨if kind.keepsType then a.type? c else none, fun s => rfl⟩
  case window => exact ⟨_, fun s => rfl⟩
termination_by structural p

theorem Select.Place.firstType?_fill (c : Catalog) (type : Option ColumnType) (p : Select.Place) :
    ∃ t, ∀ s : Select.OfType c type, (p.fill s).firstType? c = t := by
  cases p
  case here => exact ⟨type, fun s => s.2⟩
  case column outer before p after =>
    obtain ⟨t, ht⟩ := p.type?_fill c type
    cases before
    case nil => exact ⟨t, fun s => ht s⟩
    case cons a r => exact ⟨_, fun s => rfl⟩
  all_goals exact ⟨_, fun s => rfl⟩
termination_by structural p

end

theorem Function.Place.argumentType?_fill (c : Catalog) (type : Option ColumnType) (kind : FunctionKind)
    (before : List Column) (p : Column.Place) (after : List Column) (distinct : Bool) :
    ∃ t, ∀ s : Select.OfType c type,
      (Function.mk kind (before ++ p.fill s :: after) distinct none).argumentType? c = t := by
  obtain ⟨t, ht⟩ := p.type?_fill c type
  refine ⟨if kind = .coalesce then (before.findSome? (·.type? c)).or (t.or (after.findSome? (·.type? c))) else none,
    fun s => ?_⟩
  simp only [Function.argumentType?, List.findSome?_append, List.findSome?_cons, ht s]
  cases t <;> rfl

-- What stands at a place is no constant.

theorem Column.Place.isNull_fill (p : Column.Place) (s : Select) : (p.fill s).isNull = false := by
  cases p <;> rfl

theorem Column.Place.isNullConstant_fill (p : Column.Place) (s : Select) : (p.fill s).isNullConstant = false := by
  cases p <;> rfl

theorem Predicate.Place.isAlways_fill (p : Predicate.Place) (s : Select) : (p.fill s).isAlways = false := by
  cases p <;> rfl

end PolySql
