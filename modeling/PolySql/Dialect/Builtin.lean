import PolySql.Dialect.Basic

namespace PolySql

-- A decimal type with as many of its parameters as are given.
def decimalType (keyword : String) (precision scale : Option Nat) : String :=
  match precision, scale with
  | some p, some s => keyword ++ "(" ++ toString p ++ ", " ++ toString s ++ ")"
  | some p, none => keyword ++ "(" ++ toString p ++ ")"
  | none, _ => keyword

def sized (keyword : String) (length : Nat) (unit : String) : String :=
  keyword ++ "(" ++ toString length ++ unit ++ ")"

-- The isolation level is set by a statement ahead of the start.
def setIsolation (isolation : Option Isolation) : List String :=
  isolation.toList.map fun i => "SET TRANSACTION ISOLATION LEVEL " ++ i.sql

namespace Postgres

def dataType : DataType → String
  | .smallInt => "SMALLINT"
  | .integer => "INT"
  | .bigInt => "BIGINT"
  | .real => "REAL"
  | .double => "DOUBLE PRECISION"
  | .decimal p s => decimalType "NUMERIC" p s
  | .varchar n => sized "VARCHAR" n ""
  | .text => "TEXT"
  | .boolean => "BOOLEAN"
  | .blob => "BYTEA"
  | .uuid => "UUID"
  | .date => "DATE"
  | .time => "TIME"
  | .timestamp => "TIMESTAMP"
  | .timestampTz => "TIMESTAMPTZ"

def autoIncrement : DataType → AutoIncrement
  | .smallInt => ⟨"SMALLSERIAL", false⟩
  | .bigInt => ⟨"BIGSERIAL", false⟩
  | _ => ⟨"SERIAL", false⟩

def beginStatements (isolation : Option Isolation) (readOnly : Bool) : List String :=
  let level := isolation.toList.map fun i => "ISOLATION LEVEL " ++ i.sql
  let access := if readOnly then ["READ ONLY"] else []
  match level ++ access with
  | [] => ["BEGIN"]
  | modes => ["BEGIN " ++ String.intercalate ", " modes]

end Postgres

def Dialect.postgres : Dialect where
  name := "postgres"
  identifierCase := .lower
  keywords := Keywords.postgres
  maxIdentifier := some 63
  placeholder := .numbered "$"
  maxParameters := 65535
  supports
    | .limitWithUpdate | .limitWithDelete => false
    | _ => true
  dataType := Postgres.dataType
  autoIncrement := Postgres.autoIncrement
  bytesMarks := ⟨"'\\x", "'::bytea"⟩
  upsertStyle := .onConflict
  beginStatements := Postgres.beginStatements
  catalog := CatalogQueries.postgres

namespace MySql

def dataType : DataType → String
  | .smallInt => "SMALLINT"
  | .integer => "INT"
  | .bigInt => "BIGINT"
  | .real => "FLOAT"
  | .double => "DOUBLE"
  | .decimal p s => decimalType "DECIMAL" p s
  | .varchar n => sized "VARCHAR" n ""
  | .text => "LONGTEXT"
  | .boolean => "BOOLEAN"
  | .blob => "LONGBLOB"
  | .uuid => "BINARY(16)"
  | .date => "DATE"
  | .time => "TIME(6)"
  | .timestamp | .timestampTz => "DATETIME(6)"

end MySql

def Dialect.mySql : Dialect where
  name := "mysql"
  products := ["mysql", "mariadb"]
  openQuote := '\x60'
  closeQuote := '\x60'
  keywords := Keywords.mySql
  maxIdentifier := some 64
  maxParameters := 65535
  supports
    | .returning | .caseInsensitiveLike | .createIndexIfNotExists => false
    | _ => true
  requires
    | .windowFunctions => some ⟨8, 0, 0⟩
    | _ => none
  dataType := MySql.dataType
  autoIncrement t := ⟨MySql.dataType t ++ " AUTO_INCREMENT", false⟩
  uuidForm := .binary
  backslashEscapes := true
  zonedKeyword := "TIMESTAMP"
  limitStyle := .limitOffset (some "18446744073709551615")
  upsertStyle := .onDuplicateKey
  functionName
    | .length => "CHAR_LENGTH"
    | f => f.standardName
  concatStyle := .function
  defaultValues := some " () VALUES ()"
  lastInsertId := some "SELECT LAST_INSERT_ID()"
  isolationPrecedesBegin := true
  beginStatements isolation readOnly :=
    setIsolation isolation ++
      [if readOnly then "START TRANSACTION READ ONLY" else "START TRANSACTION"]
  retryableCode code := code == 1213 || code == 1205
  catalog := CatalogQueries.mySql

namespace Sqlite

def dataType : DataType → String
  | .smallInt | .integer | .bigInt => "INTEGER"
  | .real | .double => "REAL"
  | .varchar n => sized "VARCHAR" n ""
  | .text | .decimal .. | .date | .time | .timestamp | .timestampTz => "TEXT"
  | .boolean => "BOOLEAN"
  | .blob | .uuid => "BLOB"

-- Transactions are serializable; both settings belong to the connection, so every start sets them.
def beginStatements (isolation : Option Isolation) (readOnly : Bool) : List String := [
  "PRAGMA read_uncommitted = " ++ (if isolation = some .readUncommitted then "1" else "0"),
  "PRAGMA query_only = " ++ (if readOnly then "1" else "0"),
  "BEGIN"]

end Sqlite

def Dialect.sqlite : Dialect where
  name := "sqlite"
  keywords := Keywords.sqlite
  maxIdentifier := none
  maxParameters := 32766
  supports
    | .selectForUpdate | .caseInsensitiveLike | .limitWithUpdate | .limitWithDelete => false
    | _ => true
  requires
    | .upsert => some ⟨3, 24, 0⟩
    | .windowFunctions => some ⟨3, 25, 0⟩
    | .returning => some ⟨3, 35, 0⟩
    | _ => none
  dataType := Sqlite.dataType
  autoIncrement _ := ⟨"INTEGER PRIMARY KEY AUTOINCREMENT", true⟩
  uuidForm := .binary
  booleanForm := .integer
  temporalForm := .text
  decimalForm := .text
  typedTemporals := false
  limitStyle := .limitOffset (some "-1")
  upsertStyle := .onConflict
  functionName
    | .substring => "SUBSTR"
    | f => f.standardName
  lastInsertId := some "SELECT last_insert_rowid()"
  beginStatements := Sqlite.beginStatements
  -- the low byte of an extended code is the primary one
  retryableCode code := code % 256 == 5 || code % 256 == 6
  catalog := CatalogQueries.sqlite

namespace SqlServer

def dataType : DataType → String
  | .smallInt => "SMALLINT"
  | .integer => "INT"
  | .bigInt => "BIGINT"
  | .real => "REAL"
  | .double => "FLOAT"
  | .decimal p s => decimalType "DECIMAL" p s
  | .varchar n => sized "NVARCHAR" n ""
  | .text => "NVARCHAR(MAX)"
  | .boolean => "BIT"
  | .blob => "VARBINARY(MAX)"
  | .uuid => "UNIQUEIDENTIFIER"
  | .date => "DATE"
  | .time => "TIME(7)"
  | .timestamp => "DATETIME2(7)"
  | .timestampTz => "DATETIMEOFFSET(7)"

end SqlServer

-- There are no read-only transactions, so that setting is not enforced.
def Dialect.sqlServer : Dialect where
  name := "sqlserver"
  products := ["sql server", "sqlserver"]
  openQuote := '['
  closeQuote := ']'
  keywords := Keywords.sqlServer
  maxIdentifier := some 128
  placeholder := .numbered "@P"
  maxParameters := 2100
  maxRowsPerInsert := some 1000
  supports
    | .multiRowInsert | .limitWithUpdate | .limitWithDelete | .windowFunctions | .savepoints
    | .dropTableIfExists => true
    | _ => false
  requires
    | .dropTableIfExists => some ⟨13, 0, 0⟩
    | _ => none
  dataType := SqlServer.dataType
  autoIncrement t := ⟨SqlServer.dataType t ++ " IDENTITY(1,1)", false⟩
  booleanForm := .integer
  textMark := "N"
  bytesMarks := ⟨"0x", ""⟩
  typedTemporals := false
  trueText := "1=1"
  falseText := "1=0"
  limitStyle := .offsetFetch true true
  dmlLimitStyle := .top
  functionName
    | .length => "LEN"
    | f => f.standardName
  concatStyle := .function
  lastInsertId := some "SELECT CAST(SCOPE_IDENTITY() AS BIGINT)"
  isolationPrecedesBegin := true
  beginStatements isolation _ := setIsolation isolation ++ ["BEGIN TRANSACTION"]
  commitStatement := "COMMIT TRANSACTION"
  rollbackStatement := "ROLLBACK TRANSACTION"
  savepointWords := "SAVE TRANSACTION"
  rollbackToWords := "ROLLBACK TRANSACTION"
  retryableCode code := code == 1205
  catalog := CatalogQueries.sqlServer

namespace Oracle

def dataType : DataType → String
  | .smallInt => "NUMBER(5)"
  | .integer => "NUMBER(10)"
  | .bigInt => "NUMBER(19)"
  | .real => "BINARY_FLOAT"
  | .double => "BINARY_DOUBLE"
  | .decimal p s => decimalType "NUMBER" p s
  | .varchar n => sized "VARCHAR2" n " CHAR"
  | .text => "CLOB"
  | .boolean => "NUMBER(1)"
  | .blob => "BLOB"
  | .uuid => "RAW(16)"
  | .date => "DATE"
  | .time => "INTERVAL DAY(0) TO SECOND(9)"
  | .timestamp => "TIMESTAMP(9)"
  | .timestampTz => "TIMESTAMP(9) WITH TIME ZONE"

-- There are two levels only; each other one becomes the next stronger of them.
def effectiveIsolation : Isolation → Isolation
  | .readUncommitted => .readCommitted
  | .repeatableRead => .serializable
  | i => i

-- Transactions start by themselves; a setting is the first statement of one.
def beginStatements (isolation : Option Isolation) (readOnly : Bool) : List String :=
  if readOnly then ["SET TRANSACTION READ ONLY"] else setIsolation (isolation.map effectiveIsolation)

end Oracle

def Dialect.oracle : Dialect where
  name := "oracle"
  identifierCase := .upper
  keywords := Keywords.oracle
  maxIdentifier := some 128
  placeholder := .numbered ":"
  maxParameters := 65535
  supports
    | .selectForUpdate | .windowFunctions | .savepoints | .createTableIfNotExists
    | .createIndexIfNotExists | .dropTableIfExists => true
    | _ => false
  requires
    | .createTableIfNotExists | .createIndexIfNotExists | .dropTableIfExists => some ⟨23, 0, 0⟩
    | _ => none
  dataType := Oracle.dataType
  autoIncrement t := ⟨Oracle.dataType t ++ " GENERATED BY DEFAULT AS IDENTITY", false⟩
  uuidForm := .binary
  booleanForm := .integer
  bytesMarks := ⟨"HEXTORAW('", "')"⟩
  zonedKeyword := "TIMESTAMP"
  trueText := "1=1"
  falseText := "1=0"
  aliasSeparator := " "
  limitStyle := .offsetFetch false false
  functionName
    | .substring => "SUBSTR"
    | f => f.standardName
  defaultValues := none
  effectiveIsolation := Oracle.effectiveIsolation
  beginStatements := Oracle.beginStatements
  retryableCode code := code == 8177 || code == 60
  catalog := CatalogQueries.oracle

def Dialect.builtins : List Dialect :=
  [.postgres, .mySql, .sqlite, .sqlServer, .oracle]

end PolySql
