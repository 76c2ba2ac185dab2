import PolySql.ColumnType
import PolySql.Document.Basic
import PolySql.HostType

namespace PolySql.Document

def timestampOf? (s : String) : Option Timestamp :=
  let (date, rest) := s.toList.span (· != 'T')
  do return ⟨← Date.read? date, ← Time.read? (rest.drop 1)⟩

-- The value of a kind with the given text.
def valueOf? (kind : String) (s : String) : Option Value :=
  let text := s.toList
  match kind with
  | "int" => ((Text.integer? text).bind int64?).map .int
  | "float" => (FloatText.read? text).map .float
  | "decimal" => (DecimalText.read? text).map .decimal
  | "text" => some (.text s)
  | "bytes" => (Text.unhex? text).map .bytes
  | "uuid" => (Uuid.read? text).map .uuid
  | "date" => (Date.read? text).map .date
  | "time" => (Time.read? text).map .time
  | "timestamp" => (timestampOf? s).map .timestamp
  | "timestamptz" => (timestampOf? (String.ofList text.dropLast)).map .timestampTz
  | _ => none

-- A value under the name of its kind.
def value (d : Document) : Reader Value :=
  match d with
  | null => .ok .null
  | record [("bool", b)] => .ok (.bool b.isTrue)
  | record [(kind, text s)] => Reader.ofOption ("value " ++ s) (valueOf? kind s)
  | _ => Reader.malformed "expected a value"

def values (d : Document) : Reader (List Value) :=
  d.listOf value

def valueRows (d : Document) : Reader (List (List Value)) :=
  d.listOf values

-- A 64-bit integer as a number or, beyond what numbers hold, as a text.
def int64 (d : Document) : Reader Int64 := do
  let n ← match d with
    | text s => Reader.ofOption "expected a number" (Text.integer? s.toList)
    | d => d.integer
  Reader.ofOption "expected 64 bits" (int64? n)

def hostTypes : List (String × HostType) := [
  ("i16", .int16), ("i32", .int32), ("i64", .int64), ("f32", .float32), ("f64", .float64),
  ("bool", .bool), ("decimal", .decimal), ("string", .string), ("bytes", .bytes), ("uuid", .uuid),
  ("date", .date), ("time", .time), ("timestamp", .timestamp), ("timestamptz", .timestampTz)]

-- A question mark makes the type optional.
def hostType (d : Document) : Reader HostType := do
  let s ← d.string
  match s.toList.reverse with
  | '?' :: r =>
    return .option (← Reader.ofOption "type" (hostTypes.lookup (String.ofList r.reverse)))
  | _ => Reader.ofOption "type" (hostTypes.lookup s)

def plainTypes : List (String × ColumnType) := [
  ("int16", .int .bits16), ("int32", .int .bits32), ("int64", .int .bits64),
  ("float24", .float .single), ("float53", .float .double), ("bool", .bool), ("blob", .blob),
  ("uuid", .uuid), ("date", .date), ("time", .time), ("timestamp", .timestamp false),
  ("timestamptz", .timestamp true), ("text", .string none)]

-- Precision and scale, either of which may be missing.
def precision (d : Document) : Reader (Option Nat × Option Nat) := do
  let sizes ← d.listOf (·.optional natural)
  return (sizes.head?.join, sizes[1]?.join)

def variants (d : Document) : Reader Variants := do
  let names ← d.strings
  if h : names.length ≤ twoTo 63 then return ⟨names, h⟩
  else Reader.malformed "too many variants"

def columnType (d : Document) : Reader ColumnType := do
  match d with
  | text _ => d.named "column type" plainTypes
  | d =>
    if d.has "varchar" then return .string (some (← (d.field "varchar").natural))
    else if d.has "decimal" then
      let (p, s) ← (d.field "decimal").precision
      return .decimal p s
    else
      let storage := match d.field "storage" with
        | text "ordinal" => EnumStorage.ordinal
        | _ => .name
      return .enum (← (d.field "enum").string) (← (d.field "variants").variants) storage

def plainDataTypes : List (String × DataType) := [
  ("SmallInt", .smallInt), ("Integer", .integer), ("BigInt", .bigInt), ("Real", .real),
  ("Double", .double), ("Text", .text), ("Boolean", .boolean), ("Blob", .blob), ("Uuid", .uuid),
  ("Date", .date), ("Time", .time), ("Timestamp", .timestamp), ("TimestampTz", .timestampTz)]

def dataType (d : Document) : Reader DataType := do
  match d with
  | text _ => d.named "data type" plainDataTypes
  | d =>
    if d.has "Varchar" then return .varchar (← (d.field "Varchar").natural)
    else
      let (p, s) ← (d.field "Decimal").precision
      return .decimal p s

end PolySql.Document
