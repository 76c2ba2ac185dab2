import PolySql.Dialect.CatalogQueries
import PolySql.Dialect.Feature
import PolySql.Dialect.Keywords
import PolySql.Version

namespace PolySql

-- How a vendor folds unquoted identifiers.
inductive IdentifierCase
  | upper
  | lower
  | preserve
  deriving DecidableEq

inductive Placeholder
  | positional
  | numbered (mark : String)

-- The placeholder of the parameter with the given number, counted from one.
def Placeholder.text : Placeholder → Nat → String
  | positional, _ => "?"
  | numbered mark, n => mark ++ String.ofList (Text.ofNat n)

-- How a driver takes UUIDs: as such, as 16 bytes, or as text.
inductive UuidForm
  | native
  | binary
  | text
  deriving DecidableEq

-- How a driver takes truth values: as such, or as one and zero.
inductive BooleanForm
  | native
  | integer
  deriving DecidableEq

-- How a driver takes decimals, and how it takes dates and times.
inductive TextForm
  | native
  | text
  deriving DecidableEq

-- How a query states the window of rows it wants. An offset alone needs a limit on some vendors, and an
-- order on others; some write a limit alone as `TOP`.
inductive LimitStyle
  | limitOffset (unbounded : Option String)
  | offsetFetch (requiresOrder topAlone : Bool)
  deriving DecidableEq

-- Where the row limit of an update or a delete goes.
inductive DmlLimitStyle
  | suffix
  | top
  deriving DecidableEq

inductive UpsertStyle
  | onConflict
  | onDuplicateKey
  | unsupported
  deriving DecidableEq

inductive ConcatStyle
  | operator
  | function
  deriving DecidableEq

-- The definition of an auto-increment column, and whether it already declares the primary key.
structure AutoIncrement where
  typeSql : String
  declaresKey : Bool

-- Marks around the inside of a literal.
structure Enclosure where
  opening : String
  closing : String

def beginStandard (effective : Isolation → Isolation) (isolation : Option Isolation)
    (readOnly : Bool) : List String :=
  let level := isolation.toList.map fun i => "ISOLATION LEVEL " ++ (effective i).sql
  let access := if readOnly then ["READ ONLY"] else []
  match level ++ access with
  | [] => ["START TRANSACTION"]
  | modes => ["START TRANSACTION " ++ String.intercalate ", " modes]

-- A vendor's SQL. The defaults are those of the standard.
structure Dialect where
  name : String
  products : List String := [name]
  identifierCase : IdentifierCase := .preserve
  openQuote : Char := '"'
  closeQuote : Char := '"'
  keywords : List String := []
  -- without a value there is no limit
  maxIdentifier : Option Nat
  placeholder : Placeholder := .positional
  maxParameters : Nat
  maxRowsPerInsert : Option Nat := none
  supports : Capability → Bool
  requires : Capability → Option Version := fun _ => none
  dataType : DataType → String
  autoIncrement : DataType → AutoIncrement
  uuidForm : UuidForm := .native
  booleanForm : BooleanForm := .native
  temporalForm : TextForm := .native
  decimalForm : TextForm := .native
  textMark : String := ""
  backslashEscapes : Bool := false
  bytesMarks : Enclosure := ⟨"X'", "'"⟩
  typedTemporals : Bool := true
  zonedKeyword : String := "TIMESTAMP WITH TIME ZONE"
  trueText : String := "TRUE"
  falseText : String := "FALSE"
  aliasSeparator : String := " AS "
  limitStyle : LimitStyle := .limitOffset none
  dmlLimitStyle : DmlLimitStyle := .suffix
  upsertStyle : UpsertStyle := .unsupported
  functionName : FunctionKind → String := FunctionKind.standardName
  concatStyle : ConcatStyle := .operator
  defaultValues : Option String := some " DEFAULT VALUES"
  lastInsertId : Option String := none
  effectiveIsolation : Isolation → Isolation := id
  isolationPrecedesBegin : Bool := false
  beginStatements : Option Isolation → Bool → List String := beginStandard effectiveIsolation
  commitStatement : String := "COMMIT"
  rollbackStatement : String := "ROLLBACK"
  savepointWords : String := "SAVEPOINT"
  releaseWords : String := "RELEASE SAVEPOINT"
  rollbackToWords : String := "ROLLBACK TO SAVEPOINT"
  retryableCode : Int → Bool := fun _ => false
  catalog : CatalogQueries

namespace Dialect

-- Does the server have the capability? An unknown version is taken to be recent enough.
def isSupported (d : Dialect) (version : Option Version) (c : Capability) : Bool :=
  d.supports c &&
    match d.requires c, version with
    | some required, some actual => actual.atLeast required
    | _, _ => true

-- Does any capability hang on the version?
def isVersionGated (d : Dialect) : Bool :=
  Capability.all.any fun c => (d.requires c).isSome

def savepoint (d : Dialect) (name : String) : String :=
  d.savepointWords ++ " " ++ name

def releaseSavepoint (d : Dialect) (name : String) : String :=
  d.releaseWords ++ " " ++ name

def rollbackToSavepoint (d : Dialect) (name : String) : String :=
  d.rollbackToWords ++ " " ++ name

-- The class of states in which a transaction was rolled back by the server.
def isRetryableState (e : DriverError) : Bool :=
  match e.sqlstate with
  | some s => s.startsWith "40"
  | none => false

-- Is the failed transaction worth another attempt?
def isRetryable (d : Dialect) (e : DriverError) : Bool :=
  e.vendorCode.any d.retryableCode || isRetryableState e

end Dialect

end PolySql
