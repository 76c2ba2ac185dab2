import PolySql.Calendar.Timestamp
import PolySql.Error
import PolySql.Number.DecimalOfFloat
import PolySql.Number.DecimalText
import PolySql.Number.FloatText
import PolySql.Text.Quoted
import PolySql.Uuid

namespace PolySql

-- The kinds of value that columns hold.
inductive Kind
  | bool | int | float | decimal | text | bytes | uuid | date | time | timestamp | timestampTz
  deriving DecidableEq

def Kind.name : Kind → String
  | .bool => "Bool"
  | .int => "Int"
  | .float => "Float"
  | .decimal => "Decimal"
  | .text => "Text"
  | .bytes => "Bytes"
  | .uuid => "Uuid"
  | .date => "Date"
  | .time => "Time"
  | .timestamp => "Timestamp"
  | .timestampTz => "TimestampTz"

-- A value, either as the application has it or as a database stores it.
inductive Value
  | null
  | bool (b : Bool)
  | int (i : Int64)
  | float (x : Float)
  | decimal (d : Decimal)
  | text (s : String)
  | bytes (b : List UInt8)
  | uuid (u : Uuid)
  | date (d : Date)
  | time (t : Time)
  | timestamp (t : Timestamp)
  | timestampTz (t : Timestamp)

namespace Value

def isNull : Value → Bool
  | null => true
  | _ => false

-- What diagnostics call the kind.
def kindName : Value → String
  | null => "null"
  | bool _ => "bool"
  | int _ => "int"
  | float _ => "float"
  | decimal _ => "decimal"
  | text _ => "text"
  | bytes _ => "bytes"
  | uuid _ => "uuid"
  | date _ => "date"
  | time _ => "time"
  | timestamp _ => "timestamp"
  | timestampTz _ => "timestamptz"

-- Equality as the application sees it: decimals and doubles are compared as numbers.
def same : Value → Value → Bool
  | null, null => true
  | bool a, bool b => a == b
  | int a, int b => a == b
  | float a, float b => a == b
  | decimal a, decimal b => a.sameNumber b
  | text a, text b => a == b
  | bytes a, bytes b => a == b
  | uuid a, uuid b => a == b
  | date a, date b => a == b
  | time a, time b => a == b
  | timestamp a, timestamp b => a == b
  | timestampTz a, timestampTz b => a == b
  | _, _ => false

def shownList (items : List String) : String :=
  "[" ++ String.intercalate ", " items ++ "]"

-- The value in a message.
def shown : Value → String
  | null => "Null"
  | bool b => "Bool(" ++ toString b ++ ")"
  | int i => "Int(" ++ String.ofList (Text.ofInt i.toInt) ++ ")"
  | float x => "Float(" ++ String.ofList (FloatText.render x) ++ ")"
  | decimal d => "Decimal(" ++ String.ofList d.text ++ ")"
  | text s => "Text(" ++ String.ofList (Text.shown s.toList) ++ ")"
  | bytes b => "Bytes(" ++ shownList (b.map fun x => toString x.toNat) ++ ")"
  | uuid u => "Uuid(" ++ String.ofList u.text ++ ")"
  | date d => "Date(" ++ String.ofList d.text ++ ")"
  | time t => "Time(" ++ String.ofList t.text ++ ")"
  | timestamp t => "Timestamp(" ++ String.ofList (t.text 'T') ++ ")"
  | timestampTz t => "TimestampTz(" ++ String.ofList t.zonedText ++ ")"

-- The error for a value that is not what `expected` names.
def mismatch (expected : String) (v : Value) : DatabaseError :=
  .typeMismatch expected v.shown v.kindName

end Value

-- The 64-bit integer of a number that lies in its range.
def int64? (i : Int) : Option Int64 :=
  if -twoTo 63 ≤ i ∧ i < twoTo 63 then some (Int64.ofInt i) else none

end PolySql
