namespace PolySql

inductive TransactionStatus
  | active
  | committed
  | rolledBack
  | closed
  deriving DecidableEq

def TransactionStatus.name : TransactionStatus → String
  | .active => "Active"
  | .committed => "Committed"
  | .rolledBack => "RolledBack"
  | .closed => "Closed"

-- What a database reports, with the codes by which a dialect classifies it.
structure DriverError where
  sqlstate : Option String
  vendorCode : Option Int
  message : String
  deriving DecidableEq

inductive DatabaseError
  | config (message : String)
  | typeMismatch (expected found kind : String)
  | unsupported (dialect operation : String)
  | compilation (message : String)
  | transactionClosed (status : TransactionStatus) (operation : String)
  | transaction (message : String)
  | retryExhausted (attempts : Nat) (source : DatabaseError)
  | entityNotResolved (table : String)
  | driver (error : DriverError)
  | withContext (context : String) (source : DatabaseError)
  deriving DecidableEq

namespace DatabaseError

def message : DatabaseError → String
  | config m => "Configuration error: " ++ m
  | typeMismatch expected found kind =>
    "Type mismatch: expected " ++ expected ++ ", found " ++ found ++ " (" ++ kind ++ ")"
  | unsupported dialect operation => "Unsupported operation for " ++ dialect ++ ": " ++ operation
  | compilation m => "Compilation: " ++ m
  | transactionClosed status operation =>
    "Transaction is " ++ status.name ++ "; cannot " ++ operation
  | transaction m => "Failed to execute transaction " ++ m
  | retryExhausted attempts _ => "Transaction failed after " ++ toString attempts ++ " attempts"
  | entityNotResolved table => "Entity id for table " ++ table ++ " has not been resolved"
  | driver error => "Delegate: " ++ error.message
  | withContext context source => context ++ " " ++ source.message

-- The driver's error below any number of contexts.
def driverError? : DatabaseError → Option DriverError
  | driver error => some error
  | withContext _ source => source.driverError?
  | _ => none

end DatabaseError

abbrev Result (α : Type) := Except DatabaseError α

def Result.withContext {α : Type} (context : String) (r : Result α) : Result α :=
  r.mapError (.withContext context)

end PolySql
