import PolySql.Transaction.World

namespace PolySql

-- An answer for requests that begin with the given text, for as many times as it says.
structure Rule where
  start : String
  times : Option Nat
  answer : Result Answer

-- A connection is asked for by its own word, and anything else by its statement.
def Request.text : Request → String
  | connect => "connect"
  | execute sql _ | query sql _ => sql

namespace Rule

def fits (r : Rule) (q : Request) : Bool :=
  q.text.startsWith r.start && r.times.all (0 < ·)

def used (r : Rule) : Rule :=
  { r with times := r.times.map (· - 1) }

-- What is left of the rules after a request, which uses up one time of the first that fits.
def after (q : Request) : List Rule → List Rule
  | [] => []
  | r :: rest => if r.fits q then r.used :: rest else r :: after q rest

-- Without a rule a statement affects one row, and a query has none.
def answerOf (rules : List Rule) (q : Request) : Result Answer :=
  match rules.find? (·.fits q) with
  | some r => r.answer
  | none => .ok ⟨1, [], []⟩

end Rule

-- A server that follows rules.
def Server.scripted (product : String) (rules : List Rule) : Server where
  product := product
  respond before q := Rule.answerOf (before.foldl (fun rules q => Rule.after q rules) rules) q

end PolySql
