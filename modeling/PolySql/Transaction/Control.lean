import PolySql.Dialect.Basic

namespace PolySql

-- What steers a transaction on its connection.
inductive Control
  | begin (isolation : Option Isolation) (readOnly : Bool)
  | commit
  | rollback
  | savepoint (name : String)
  | release (name : String)
  | rollbackTo (name : String)
  deriving DecidableEq

-- The level in a message.
def Isolation.shown : Isolation → String
  | readUncommitted => "ReadUncommitted"
  | readCommitted => "ReadCommitted"
  | repeatableRead => "RepeatableRead"
  | serializable => "Serializable"

namespace Control

def shownLevel : Option Isolation → String
  | none => "None"
  | some i => "Some(" ++ i.shown ++ ")"

-- The control in a message.
def shown : Control → String
  | begin isolation readOnly =>
    "Begin \x7b isolation: " ++ shownLevel isolation ++ ", read_only: " ++ toString readOnly ++ " \x7d"
  | commit => "Commit"
  | rollback => "Rollback"
  | savepoint name => "Savepoint(\"" ++ name ++ "\")"
  | release name => "ReleaseSavepoint(\"" ++ name ++ "\")"
  | rollbackTo name => "RollbackToSavepoint(\"" ++ name ++ "\")"

-- The start of a transaction. Some vendors take the isolation level ahead of it.
def beginStatements (d : Dialect) (isolation : Option Isolation) (readOnly : Bool) : List String :=
  match isolation with
  | none => d.beginStatements none readOnly
  | some i =>
    if d.isolationPrecedesBegin then
      ("SET TRANSACTION ISOLATION LEVEL " ++ (d.effectiveIsolation i).sql) ::
        d.beginStatements none readOnly
    else d.beginStatements isolation readOnly

-- Where savepoints cannot be released they are left to the end of the transaction.
def statements (d : Dialect) : Control → List String
  | begin isolation readOnly => beginStatements d isolation readOnly
  | commit => [d.commitStatement]
  | rollback => [d.rollbackStatement]
  | savepoint name => [d.savepoint name]
  | release name => if d.supports .releaseSavepoint then [d.releaseSavepoint name] else []
  | rollbackTo name => [d.rollbackToSavepoint name]

end Control

end PolySql
