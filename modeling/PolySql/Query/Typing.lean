import PolySql.Query.Basic

namespace PolySql

-- Functions whose result is of their first argument's type.
def FunctionKind.keepsType : FunctionKind → Bool
  | .min | .max | .lower | .upper | .coalesce | .substring => true
  | _ => false

mutual

-- The type of the column that an expression carries, if it is known.
def Column.type? (c : Catalog) : Column → Option ColumnType
  | .physical id _ => c.columnType? id
  | .function f => f.resultType? c
  | .subSelect s => s.firstType? c
  | _ => none

def Column.headType? (c : Catalog) : List Column → Option ColumnType
  | [] => none
  | a :: _ => a.type? c

def Function.resultType? (c : Catalog) : Function → Option ColumnType
  | ⟨kind, args, _, _⟩ => if kind.keepsType then Column.headType? c args else none

def Select.firstType? (c : Catalog) : Select → Option ColumnType
  | ⟨_, columns, _, _, _, _, _, _, _, _⟩ => Column.headType? c columns

end

def Catalog.tableTypes (c : Catalog) (id : TableId) : List (Option ColumnType) :=
  (c.columns id).map (some ·.type)

mutual

-- The types of the columns for which a star stands.
def Table.starTypes (c : Catalog) : Table → List (Option ColumnType)
  | .physical id _ => c.tableTypes id
  | .join _ left right _ => left.starTypes c ++ right.starTypes c
  | .subSelect s _ => s.resultTypes c

-- The types of the columns of the result.
def Select.resultTypes (c : Catalog) : Select → List (Option ColumnType)
  | ⟨table, columns, _, _, _, _, _, _, _, _⟩ =>
    columns.flatMap fun
      | .star (some id) => c.tableTypes id
      | .star none => table.starTypes c
      | column => [column.type? c]

end

-- The first type that is known among the arguments.
def Function.argumentType? (c : Catalog) (f : Function) : Option ColumnType :=
  if f.kind = .coalesce then f.args.findSome? (·.type? c) else none

end PolySql
