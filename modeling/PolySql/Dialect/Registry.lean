import PolySql.Dialect.Builtin
import PolySql.Text.Character
import PolySql.Text.LowerCase

namespace PolySql

-- The known dialects; the first that fits is taken.
structure Registry where
  dialects : List Dialect

namespace Registry

open Text

def empty : Registry := ⟨[]⟩

def builtin : Registry := ⟨Dialect.builtins⟩

-- A dialect that is registered later takes precedence.
def register (r : Registry) (d : Dialect) : Registry :=
  { r with dialects := d :: r.dialects }

def contains (part : List Char) (s : List Char) : Bool :=
  part.isPrefixOf s ||
    match s with
    | [] => false
    | _ :: rest => contains part rest

-- The dialect of a product, whose name contains one of the dialect's product names in any case.
def resolve (r : Registry) (product : String) : Result Dialect :=
  let text := lower product.toList
  match r.dialects.find? fun d => d.products.any fun p => contains (lower p.toList) text with
  | some d => .ok d
  | none => .error (.config ("No dialect registered for '" ++ product ++ "'"))

def byName (r : Registry) (name : String) : Result Dialect :=
  match r.dialects.find? fun d => sameWord d.name name with
  | some d => .ok d
  | none => .error (.config ("Unknown dialect '" ++ name ++ "'"))

end Registry

end PolySql
