import PolySql.Document.Dialect
import PolySql.Document.Value
import PolySql.Settings.Config

namespace PolySql.Document

def layer (d : Document) : Reader (List (String × String)) :=
  d.fields.mapM fun (key, value) => do return (key, ← value.string)

-- One layer, or a list of layers, each of them over the one before it.
def environment (d : Document) : Reader Environment := do
  match d with
  | list layers => return (← layers.mapM layer).foldl Environment.cover ⟨[]⟩
  | d => return ⟨[← d.layer]⟩

def status (d : Document) : Reader TransactionStatus :=
  d.oneOf "status" [.active, .committed, .rolledBack, .closed] TransactionStatus.name

def driverError (d : Document) : Reader DriverError := do
  return ⟨← (d.field "sqlstate").optional string, ← (d.field "vendor_code").optional integer,
    ← d.setting "message" "" string⟩

-- An error without its contexts; `source` reads the error that another one gives as its cause.
def bareError (source : Document → Reader DatabaseError) (d : Document) : Reader DatabaseError := do
  let text (key : String) : Reader String := (d.field key).string
  match ← text "kind" with
  | "Config" => return .config (← text "message")
  | "Compilation" => return .compilation (← text "message")
  | "Transaction" => return .transaction (← text "message")
  | "TypeMismatch" =>
    return .typeMismatch (← text "expected") (← text "value") (← text "runtime_type")
  | "UnsupportedOperation" => return .unsupported (← text "dialect") (← text "operation")
  | "TransactionClosed" =>
    return .transactionClosed (← (d.field "status").status) (← text "operation")
  | "RetryExhausted" =>
    return .retryExhausted (← (d.field "attempts").natural) (← source (d.field "source"))
  | "EntityNotResolved" => return .entityNotResolved (← text "table")
  | "Driver" => return .driver (← d.driverError)
  | kind => Reader.malformed ("error " ++ kind)

-- The fuel bounds how deep errors lie in each other. The innermost context comes first.
def errorWith : Nat → Document → Reader DatabaseError
  | 0, _ => Reader.malformed "error"
  | fuel + 1, d => do
    let bare ← d.bareError (errorWith fuel)
    return (← (d.field "context").strings).foldl (fun e context => .withContext context e) bare

def error (d : Document) : Reader DatabaseError :=
  errorWith d.depth d

def idFactory (d : Document) : Reader IdFactory := do
  if d.has "counter" then
    let start ← (d.field "counter").integer
    return ⟨"Counter", fun n _ _ => .ok (some (.int (Int64.ofInt (start + n))))⟩
  else if d.has "fail" then
    let e ← (d.field "fail").error
    return ⟨"Failing", fun _ _ _ => .error e⟩
  else
    let v ← (d.field "value").optional value
    return ⟨"Constant", fun _ _ _ => .ok v⟩

def millis (d : Document) : Reader Duration := do
  return .ofMillis (← d.natural)

-- The configuration of an environment, or else the standard one, with the given changes.
def config (random : Nat → Uuid) (d : Document) : Reader Config := do
  let base ← match d.field "env" with
    | null => pure Config.standard
    | e => do Reader.ofResult (Config.ofEnvironment (← e.environment) random)
  let registered ← (d.field "register").listOf dialect
  return { base with
    useNestedTransactions := d.flagOr "nested" base.useNestedTransactions
    isolation := (← (d.field "isolation").optional isolation).or base.isolation
    readOnly := d.flagOr "read_only" base.readOnly
    retry := {
      maxAttempts := ← d.setting "max_attempts" base.retry.maxAttempts natural
      minDelay := ← d.setting "min_delay_ms" base.retry.minDelay millis
      maxDelay := ← d.setting "max_delay_ms" base.retry.maxDelay millis }
    retryableStates := ← d.setting "sqlstates" base.retryableStates strings
    warnAfter := (← (d.field "warn_ms").optional millis).or base.warnAfter
    explicitDialect := (← (d.field "dialect").optional dialect).or base.explicitDialect
    registry := registered.foldl Registry.register base.registry
    ids := ← d.setting "ids" base.ids idFactory
    interceptors := ← (d.field "interceptors").strings }

end PolySql.Document
