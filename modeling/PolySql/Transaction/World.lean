import PolySql.Schema.Rows
import PolySql.Statement.Draws
import PolySql.Transaction.Control

namespace PolySql

-- What reaches a server.
inductive Request
  | connect
  | execute (sql : String) (params : List Value)
  | query (sql : String) (params : List Value)

-- What comes back: the number of affected rows of a statement, and the rows of a query.
structure Answer where
  affected : Nat
  columns : List String
  rows : List Cells

def Answer.none : Answer := ⟨0, [], []⟩

-- A server answers a request in view of those that came before it.
structure Server where
  product : String
  respond : List Request → Request → Result Answer

-- What is asked of a connection as a whole.
inductive Task
  | control (c : Control)
  | execute (sql : String) (params : List Value)
  | query (sql : String) (params : List Value)
  | batch (sql : String) (paramSets : List (List Value))

-- The requests of a task, one after the other.
def Task.requests (d : Dialect) : Task → List Request
  | control c => (c.statements d).map (.execute · [])
  | execute sql params => [.execute sql params]
  | query sql params => [.query sql params]
  | batch sql paramSets => paramSets.map (.execute sql)

namespace Server

-- Sends requests up to the first that fails. Affected rows add up, and the last rows count.
def answerAll (server : Server) (before : List Request) (found : Answer) :
    List Request → List Request × Result Answer
  | [] => ([], .ok found)
  | r :: rest =>
    match server.respond before r with
    | .error e => ([r], .error e)
    | .ok a =>
      let (sent, result) := server.answerAll (before ++ [r])
        { a with affected := found.affected + a.affected } rest
      (r :: sent, result)

end Server

-- What observers of transactions are told.
inductive Notice
  | beforeStatement (sql : String)
  | afterStatement (sql : String)
  | beforeCommit
  | afterCommit
  | beforeRollback
  | afterRollback
  deriving DecidableEq

-- Connections are numbered in the order in which they were asked for.
inductive Event
  | connect (succeeded : Bool)
  | task (connection : Nat) (t : Task) (sent : List Request) (succeeded : Bool)
  | notice (observer : String) (n : Notice)
  | hook (label : String)

def Event.requests : Event → List Request
  | connect _ => [.connect]
  | task _ _ sent _ => sent
  | notice .. | hook _ => []

-- All that lasts longer than a transaction: the server with what has happened so far, what is known of
-- its version, the values that generators have given, and what the application keeps for itself.
structure World (ρ : Type) where
  server : Server
  trace : List Event
  snapshot : Snapshot
  draws : Draws
  askedIds : Nat
  application : ρ

namespace World

variable {ρ : Type}

def new (server : Server) (application : ρ) : World ρ :=
  ⟨server, [], .empty, .none, 0, application⟩

def requests (w : World ρ) : List Request :=
  w.trace.flatMap Event.requests

def record (w : World ρ) (e : Event) : World ρ :=
  { w with trace := w.trace ++ [e] }

def recordAll (w : World ρ) (es : List Event) : World ρ :=
  { w with trace := w.trace ++ es }

def connections (w : World ρ) : Nat :=
  w.trace.countP fun
    | .connect _ => true
    | _ => false

-- Asks for a connection, by its number.
def connect (w : World ρ) : Result Nat × World ρ :=
  match w.server.respond w.requests .connect with
  | .ok _ => (.ok w.connections, w.record (.connect true))
  | .error e => (.error e, w.record (.connect false))

def perform (w : World ρ) (d : Dialect) (connection : Nat) (t : Task) : Result Answer × World ρ :=
  let (sent, result) := w.server.answerAll w.requests .none (t.requests d)
  (result, w.record (.task connection t sent result.toBool))

end World

end PolySql
