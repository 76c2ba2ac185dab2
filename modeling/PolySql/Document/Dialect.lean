import PolySql.Dialect.Registry
import PolySql.Document.Basic

namespace PolySql.Document

def capability (d : Document) : Reader Capability :=
  d.oneOf "capability" Capability.all Capability.name

def isolations : List Isolation :=
  [.readUncommitted, .readCommitted, .repeatableRead, .serializable]

def isolation (d : Document) : Reader Isolation :=
  d.oneOf "isolation level" isolations Isolation.sql

-- Up to three parts; missing ones are zero.
def version (d : Document) : Reader Version := do
  let parts ← d.listOf natural
  let part (i : Nat) : UInt32 := .ofNat (parts.getD i 0)
  return ⟨part 0, part 1, part 2⟩

def quotes (d : Document) : Reader (Char × Char) := do
  match (← d.strings).map String.toList with
  | [[opening], [closing]] => return (opening, closing)
  | _ => Reader.malformed "expected two characters"

def limitStyle (d : Document) : Reader LimitStyle := do
  match ← (d.field "style").string with
  | "limit" => return .limitOffset (← (d.field "unbounded").optional string)
  | _ => return .offsetFetch (d.flag "requires_order_by") (d.flag "top")

-- The entry of a field, or a default where the field is missing.
def choice {α : Type} (d : Document) (key : String) (default : α) (choices : List (String × α)) :
    Reader α := do
  return (← (d.field key).optional (·.named key choices)).getD default

def setting {α : Type} (d : Document) (key : String) (default : α) (read : Document → Reader α) :
    Reader α := do
  return (← (d.field key).optional read).getD default

def requirement (entry : String × Document) : Reader (Capability × Version) := do
  return (← (text entry.1).capability, ← entry.2.version)

def textForms : List (String × TextForm) := [("native", .native), ("text", .text)]

-- A dialect that differs from the standard as far as the data says. Types and catalog queries are
-- those of the base.
def customDialect (base : Dialect) (d : Document) : Reader Dialect := do
  let name ← d.setting "name" "custom" string
  let supported ← (d.field "supports").listOf capability
  let required ← (d.field "requires").fields.mapM requirement
  let standard : Dialect := {
    name := name
    maxIdentifier := some (← d.setting "max_identifier" 128 natural)
    maxParameters := ← d.setting "max_parameters" 999 natural
    supports := supported.contains
    dataType := base.dataType
    autoIncrement := base.autoIncrement
    catalog := base.catalog }
  let marks ← d.setting "quotes" (standard.openQuote, standard.closeQuote) quotes
  return { standard with
    products := ← d.setting "products" standard.products strings
    identifierCase := ← d.choice "case" .preserve
      [("upper", .upper), ("lower", .lower), ("preserve", .preserve)]
    openQuote := marks.1
    closeQuote := marks.2
    keywords := ← (d.field "keywords").strings
    maxRowsPerInsert := ← (d.field "max_rows").optional natural
    requires := fun c => required.lookup c
    uuidForm := ← d.choice "uuid" .native
      [("native", .native), ("binary", .binary), ("text", .text)]
    booleanForm := ← d.choice "boolean" .native [("native", .native), ("integer", .integer)]
    temporalForm := ← d.choice "temporal" .native textForms
    decimalForm := ← d.choice "decimal" .native textForms
    typedTemporals := d.flagOr "typed_temporal" true
    limitStyle := ← d.setting "limit" standard.limitStyle limitStyle
    dmlLimitStyle := ← d.choice "dml_limit" .suffix [("suffix", .suffix), ("top", .top)]
    upsertStyle := ← d.choice "upsert" .unsupported
      [("on_conflict", .onConflict), ("on_duplicate", .onDuplicateKey), ("unsupported", .unsupported)]
    concatStyle := ← d.choice "concat" .operator
      [("operator", .operator), ("function", .function)]
    defaultValues := match d.field "default_values" with
      | text s => some s
      | null => standard.defaultValues
      | _ => none
    lastInsertId := ← (d.field "last_insert_id").optional string
    aliasSeparator := ← d.setting "alias" standard.aliasSeparator string
    isolationPrecedesBegin := d.flag "isolation_first" }

-- The fuel bounds how deep bases lie in each other.
def dialectWith : Nat → Document → Reader Dialect
  | 0, _ => Reader.malformed "dialect"
  | fuel + 1, d =>
    match d with
    | text _ => d.oneOf "dialect" Dialect.builtins Dialect.name
    | d => do
      let custom := d.field "custom"
      let base ← custom.setting "base" Dialect.postgres (dialectWith fuel)
      customDialect base custom

-- One of the known dialects by its name, or one of its own.
def dialect (d : Document) : Reader Dialect :=
  dialectWith d.depth d

end PolySql.Document
