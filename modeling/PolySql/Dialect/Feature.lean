import PolySql.Error

namespace PolySql

-- What not every vendor, or not every version of a server, can do.
inductive Capability
  | multiRowInsert
  | returning
  | upsert
  | selectForUpdate
  | caseInsensitiveLike
  | limitWithUpdate
  | limitWithDelete
  | windowFunctions
  | savepoints
  | releaseSavepoint
  | createTableIfNotExists
  | createIndexIfNotExists
  | dropTableIfExists
  deriving DecidableEq

namespace Capability

def all : List Capability := [
  multiRowInsert, returning, upsert, selectForUpdate, caseInsensitiveLike, limitWithUpdate,
  limitWithDelete, windowFunctions, savepoints, releaseSavepoint, createTableIfNotExists,
  createIndexIfNotExists, dropTableIfExists]

def name : Capability → String
  | multiRowInsert => "MultiRowInsert"
  | returning => "Returning"
  | upsert => "Upsert"
  | selectForUpdate => "SelectForUpdate"
  | caseInsensitiveLike => "CaseInsensitiveLike"
  | limitWithUpdate => "LimitWithUpdate"
  | limitWithDelete => "LimitWithDelete"
  | windowFunctions => "WindowFunctions"
  | savepoints => "Savepoints"
  | releaseSavepoint => "ReleaseSavepoint"
  | createTableIfNotExists => "CreateTableIfNotExists"
  | createIndexIfNotExists => "CreateIndexIfNotExists"
  | dropTableIfExists => "DropTableIfExists"

end Capability

-- A vendor-neutral data type.
inductive DataType
  | smallInt
  | integer
  | bigInt
  | real
  | double
  | decimal (precision scale : Option Nat)
  | varchar (length : Nat)
  | text
  | boolean
  | blob
  | uuid
  | date
  | time
  | timestamp
  | timestampTz
  deriving DecidableEq

inductive FunctionKind
  | count
  | sum
  | avg
  | min
  | max
  | lower
  | upper
  | length
  | coalesce
  | concat
  | substring
  | currentTimestamp
  | rowNumber
  deriving DecidableEq

namespace FunctionKind

def all : List FunctionKind := [
  count, sum, avg, min, max, lower, upper, length, coalesce, concat, substring, currentTimestamp,
  rowNumber]

-- The name in the standard.
def standardName : FunctionKind → String
  | count => "COUNT"
  | sum => "SUM"
  | avg => "AVG"
  | min => "MIN"
  | max => "MAX"
  | lower => "LOWER"
  | upper => "UPPER"
  | length => "LENGTH"
  | coalesce => "COALESCE"
  | concat => "CONCAT"
  | substring => "SUBSTRING"
  | currentTimestamp => "CURRENT_TIMESTAMP"
  | rowNumber => "ROW_NUMBER"

def isAggregate : FunctionKind → Bool
  | count | sum | avg | min | max => true
  | _ => false

end FunctionKind

inductive Isolation
  | readUncommitted
  | readCommitted
  | repeatableRead
  | serializable
  deriving DecidableEq

def Isolation.sql : Isolation → String
  | readUncommitted => "READ UNCOMMITTED"
  | readCommitted => "READ COMMITTED"
  | repeatableRead => "REPEATABLE READ"
  | serializable => "SERIALIZABLE"

end PolySql
