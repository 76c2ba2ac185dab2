import PolySql.Catalog.Basic
import PolySql.Dialect.Registry
import PolySql.Settings.Environment
import PolySql.Settings.Retry

namespace PolySql

-- A source of keys for new rows; it answers with nothing where the database makes the key. The
-- first argument counts the questions it was asked before.
structure IdFactory where
  name : String
  generate : Nat → Catalog → TableId → Result (Option Value)

namespace IdFactory

def database : IdFactory where
  name := "DatabaseGeneratedIds"
  generate _ _ _ := .ok none

-- Random UUIDs for tables whose key is a single UUID column.
def clientUuid (random : Nat → Uuid) : IdFactory where
  name := "ClientUuidIds"
  generate n c table :=
    match (c.keyIds table).map c.columnType? with
    | [some .uuid] => .ok (some (.uuid (random n)))
    | _ => .ok none

end IdFactory

structure Config where
  useNestedTransactions : Bool
  isolation : Option Isolation
  readOnly : Bool
  retry : RetryPolicy
  retryableStates : List String
  warnAfter : Option Duration
  explicitDialect : Option Dialect
  registry : Registry
  ids : IdFactory
  -- the observers of statements, commits and rollbacks, by name
  interceptors : List String

namespace Config

def standard : Config where
  useNestedTransactions := false
  isolation := none
  readOnly := false
  retry := .standard
  retryableStates := []
  warnAfter := none
  explicitDialect := none
  registry := .builtin
  ids := .database
  interceptors := []

def setting {α : Type} (r : Except SettingError α) : Result α :=
  r.mapError fun e => .config e.message

def millis (e : Environment) (key : String) : Result (Option Duration) := do
  return (← setting (e.number key)).map .ofMillis

def readIsolation (e : Environment) : Result (Option Isolation) :=
  match e.get? Isolation.settingKey with
  | none => .ok none
  | some text => do return some (← setting (Isolation.parse text))

def attemptsKey : String := "STRATA_MAX_ATTEMPTS"

def readAttempts (e : Environment) : Result Nat := do
  match ← setting (e.number attemptsKey) with
  | none => return RetryPolicy.standard.maxAttempts
  | some n =>
    if n < twoTo 32 then return n
    else throw (.config (attemptsKey ++ " is too large: " ++ toString n))

def readRetry (e : Environment) : Result RetryPolicy := do
  let attempts ← readAttempts e
  let low ← millis e "STRATA_MIN_RETRY_DELAY_MS"
  let high ← millis e "STRATA_MAX_RETRY_DELAY_MS"
  return ⟨attempts, low.getD RetryPolicy.standard.minDelay, high.getD RetryPolicy.standard.maxDelay⟩

def readDialect (e : Environment) : Result (Option Dialect) :=
  match e.get? "STRATA_DIALECT" with
  | none => .ok none
  | some name => do return some (← Registry.builtin.byName name)

def idsKey : String := "STRATA_ID_GENERATION"

def readIds (e : Environment) (random : Nat → Uuid) : Result IdFactory :=
  match e.get? idsKey with
  | none => .ok .database
  | some text =>
    if text = "database" then .ok .database
    else if text = "uuid" then .ok (.clientUuid random)
    else setting (.error (.choice idsKey text "expected database or uuid"))

def ofEnvironment (e : Environment) (random : Nat → Uuid) : Result Config := do
  let isolation ← readIsolation e
  let retry ← readRetry e
  let dialect ← readDialect e
  let ids ← readIds e random
  let nested ← setting (e.flag "STRATA_NESTED_TRANSACTIONS" standard.useNestedTransactions)
  let readOnly ← setting (e.flag "STRATA_READ_ONLY" standard.readOnly)
  let warnAfter ← millis e "STRATA_WARN_LONG_QUERIES_MS"
  return { standard with
    useNestedTransactions := nested
    isolation := isolation
    readOnly := readOnly
    retry := retry
    retryableStates := e.list "STRATA_RETRYABLE_SQLSTATES"
    warnAfter := warnAfter
    explicitDialect := dialect
    ids := ids }

-- Can transactions on the dialect follow the configuration?
def validate (c : Config) (d : Dialect) : Result Unit := do
  if c.useNestedTransactions && !d.supports .savepoints then
    throw (.config ("Nested transactions need savepoints, which " ++ d.name ++ " does not support"))
  if c.retry.maxAttempts = 0 then
    throw (.config "The retry policy must allow at least one attempt")
  if c.retry.maxDelay.nanos < c.retry.minDelay.nanos then
    throw (.config ("Minimum retry delay (" ++ c.retry.minDelay.shown ++ ") exceeds the maximum (" ++
      c.retry.maxDelay.shown ++ ")"))

end Config

end PolySql
