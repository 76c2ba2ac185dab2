import PolySql.Value

namespace PolySql

-- The types of the application's own values.
inductive HostType
  | int16
  | int32
  | int64
  | float32
  | float64
  | bool
  | decimal
  | string
  | bytes
  | uuid
  | date
  | time
  | timestamp
  | timestampTz
  | option (type : HostType)
  deriving DecidableEq

namespace HostType

def kind : HostType → Kind
  | int16 | int32 | int64 => .int
  | float32 | float64 => .float
  | bool => .bool
  | decimal => .decimal
  | string => .text
  | bytes => .bytes
  | uuid => .uuid
  | date => .date
  | time => .time
  | timestamp => .timestamp
  | timestampTz => .timestampTz
  | option t => t.kind

-- What a conversion error says it expected; both kinds of double say the same.
def shortName : HostType → String
  | int16 => "i16"
  | int32 => "i32"
  | int64 => "i64"
  | float32 | float64 => "f64"
  | bool => "bool"
  | decimal => "Decimal"
  | string => "String"
  | bytes => "Vec<u8>"
  | uuid => "Uuid"
  | date => "NaiveDate"
  | time => "NaiveTime"
  | timestamp => "NaiveDateTime"
  | timestampTz => "DateTime<Utc>"
  | option t => t.shortName

-- The full name of the type.
def fullName : HostType → String
  | int16 => "i16"
  | int32 => "i32"
  | int64 => "i64"
  | float32 => "f32"
  | float64 => "f64"
  | bool => "bool"
  | decimal => "rust_decimal::decimal::Decimal"
  | string => "alloc::string::String"
  | bytes => "alloc::vec::Vec<u8>"
  | uuid => "uuid::Uuid"
  | date => "chrono::naive::date::NaiveDate"
  | time => "chrono::naive::time::NaiveTime"
  | timestamp => "chrono::naive::datetime::NaiveDateTime"
  | timestampTz => "chrono::datetime::DateTime<chrono::offset::utc::Utc>"
  | option t => "core::option::Option<" ++ t.fullName ++ ">"

def intBits : HostType → Nat
  | int16 => 16
  | int32 => 32
  | _ => 64

-- The value as a value of the type.
def convert? (type : HostType) (v : Value) : Option Value :=
  match type, v with
  | option _, .null => some .null
  | option t, v => convert? t v
  | int16, .int i | int32, .int i | int64, .int i =>
    let bound : Int := twoTo (type.intBits - 1)
    if -bound ≤ i.toInt ∧ i.toInt < bound then some (.int i) else none
  | float32, v => (number? v).map fun x => .float x.toFloat32.toFloat
  | float64, v => (number? v).map .float
  | bool, .bool b => some (.bool b)
  | decimal, .decimal d => some (.decimal d)
  | string, .text s => some (.text s)
  | bytes, .bytes b => some (.bytes b)
  | uuid, .uuid u => some (.uuid u)
  | date, .date d => some (.date d)
  | time, .time t => some (.time t)
  | timestamp, .timestamp t => some (.timestamp t)
  | timestampTz, .timestampTz t => some (.timestampTz t)
  | _, _ => none
where
  number? : Value → Option Float
    | .float x => some x
    | .int i => some (Binary64.ofInt i.toInt)
    | .decimal d => some d.toFloat
    | _ => none

def convert (type : HostType) (v : Value) : Result Value :=
  match type.convert? v with
  | some x => .ok x
  | none => .error (v.mismatch type.shortName)

end HostType

end PolySql
