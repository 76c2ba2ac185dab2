import PolySql.Dialect.Representation

namespace PolySql

inductive IntWidth
  | bits16
  | bits32
  | bits64
  deriving DecidableEq

def IntWidth.bits : IntWidth → Nat
  | bits16 => 16
  | bits32 => 32
  | bits64 => 64

def IntWidth.holds (w : IntWidth) (i : Int) : Bool :=
  -twoTo (w.bits - 1) ≤ i && i < twoTo (w.bits - 1)

inductive FloatWidth
  | single
  | double
  deriving DecidableEq

-- How a variant of an enumeration is stored: by its name, or by its position.
inductive EnumStorage
  | name
  | ordinal
  deriving DecidableEq

-- The variants of an enumeration in the order of their declaration. Each position is a 64-bit integer.
structure Variants where
  names : List String
  length_le : names.length ≤ twoTo 63
  deriving DecidableEq

inductive ColumnType
  | int (width : IntWidth)
  | float (width : FloatWidth)
  | bool
  | blob
  | uuid
  | date
  | time
  | timestamp (zoned : Bool)
  -- the length is counted in characters
  | string (maxLength : Option Nat)
  | decimal (precision scale : Option Nat)
  | enum (name : String) (variants : Variants) (storage : EnumStorage)
  deriving DecidableEq

namespace ColumnType

-- What messages call the type.
def text : ColumnType → String
  | int w => toString w.bits ++ "-bit integer"
  | float .single => "single precision float"
  | float .double => "double precision float"
  | bool => "boolean"
  | blob => "blob"
  | uuid => "uuid"
  | date => "date"
  | time => "time"
  | timestamp true => "timestamp with time zone"
  | timestamp false => "timestamp"
  | string none => "string"
  | string (some n) => "string(" ++ toString n ++ ")"
  | decimal (some p) (some s) => "decimal(" ++ toString p ++ ", " ++ toString s ++ ")"
  | decimal (some p) none => "decimal(" ++ toString p ++ ")"
  | decimal none _ => "decimal"
  | enum name _ _ => "enum " ++ name

-- The kind of the values that a column of the type holds.
def kind : ColumnType → Kind
  | int _ => .int
  | float _ => .float
  | bool => .bool
  | blob => .bytes
  | uuid => .uuid
  | date => .date
  | time => .time
  | timestamp true => .timestampTz
  | timestamp false => .timestamp
  | string _ | enum .. => .text
  | decimal .. => .decimal

def intDataType : IntWidth → DataType
  | .bits16 => .smallInt
  | .bits32 => .integer
  | .bits64 => .bigInt

-- The greatest size of a variant's name in bytes.
def longest (variants : Variants) : Nat :=
  match variants.names with
  | [] => 1
  | v :: vs => vs.foldl (fun n w => max n w.utf8ByteSize) v.utf8ByteSize

def dataType : ColumnType → DataType
  | int w => intDataType w
  | float .single => .real
  | float .double => .double
  | bool => .boolean
  | blob => .blob
  | uuid => .uuid
  | date => .date
  | time => .time
  | timestamp true => .timestampTz
  | timestamp false => .timestamp
  | string none => .text
  | string (some n) => .varchar n
  | decimal p s => .decimal p s
  | enum _ variants .name => .varchar (longest variants)
  | enum _ _ .ordinal => .integer

-- The type of the column in a definition.
def sql (t : ColumnType) (d : Dialect) : String :=
  d.dataType t.dataType

-- The representation of a value in a column of the type, if the column can hold it.
def encode? (t : ColumnType) (d : Dialect) (v : Value) : Option Value :=
  match t, v with
  | _, .null => some .null
  | int w, .int i => if w.holds i.toInt then some (.int i) else none
  | float _, .float x => if Binary64.isFinite x then some (.float x) else none
  | float _, .int i => some (.float (Binary64.ofInt i.toInt))
  | bool, .bool b => some (d.storedBool b)
  | blob, .bytes b => some (.bytes b)
  | uuid, .uuid u => some (d.storedUuid u)
  | uuid, .text s => (Uuid.read? s.toList).map d.storedUuid
  | date, .date x => some (d.storedTemporal (.date x) x.text)
  | time, .time x => some (d.storedTemporal (.time x) x.text)
  | timestamp false, .timestamp x => some (d.storedTemporal (.timestamp x) (x.text ' '))
  | timestamp true, .timestampTz x => some (d.storedTemporal (.timestampTz x) x.zonedText)
  | string none, .text s => some (.text s)
  | string (some n), .text s => if s.length ≤ n then some (.text s) else none
  | decimal .., .decimal x => some (d.storedDecimal x)
  | decimal .., .int i => some (d.storedDecimal (.ofInt64 i))
  | enum _ variants storage, .text s =>
    (variants.names.idxOf? s).map fun i =>
      match storage with
      | .name => .text s
      | .ordinal => .int (Int64.ofNat i)
  | _, _ => none

def encode (t : ColumnType) (d : Dialect) (v : Value) : Result Value :=
  match t.encode? d v with
  | some x => .ok x
  | none => .error (v.mismatch t.text)

def decodeInt? (w : IntWidth) : Value → Option Int64
  | .int i => ranged i.toInt
  | .bool b => ranged (if b then 1 else 0)
  | .decimal x => if x.isInteger then ranged x.truncated else none
  | .text s => (Text.integer? (Text.trim s.toList)).bind ranged
  | _ => none
where
  ranged (i : Int) : Option Int64 :=
    if w.holds i then int64? i else none

def decodeFloat? : Value → Option Float
  | .float x => some x
  | .int i => some (Binary64.ofInt i.toInt)
  | .decimal x => some x.toFloat
  | .text s => FloatText.read? (Text.trim s.toList)
  | _ => none

def truthWord? (s : String) : Option Bool :=
  let word := String.ofList (s.toList.map Char.toLower)
  if word = "t" ∨ word = "true" ∨ word = "1" ∨ word = "y" then some true
  else if word = "f" ∨ word = "false" ∨ word = "0" ∨ word = "n" then some false
  else none

def decodeBool? : Value → Option Bool
  | .bool b => some b
  | .int i => if i = 0 then some false else if i = 1 then some true else none
  | .text s => truthWord? s
  | _ => none

def decodeUuid? : Value → Option Uuid
  | .uuid u => some u
  | .bytes b => Uuid.ofOctets? b
  | .text s => Uuid.read? (Text.trim s.toList)
  | _ => none

def decodeDate? : Value → Option Date
  | .date x => some x
  | .timestamp x => some x.date
  | .text s => Date.read? (Text.trim s.toList)
  | _ => none

def decodeTime? : Value → Option Time
  | .time x => some x
  | .text s => Time.read? (Text.trim s.toList)
  | _ => none

def decodeTimestamp? : Value → Option Timestamp
  | .timestamp x => some x
  | .text s => Timestamp.read? (Text.trim s.toList)
  | _ => none

-- A timestamp without a zone is taken to be in UTC.
def decodeTimestampTz? : Value → Option Timestamp
  | .timestampTz x => some x
  | .timestamp x => some x
  | .text s => Timestamp.readZoned? (Text.trim s.toList)
  | _ => none

def decodeString? : Value → Option String
  | .text s => some s
  | .bytes b => String.fromUTF8? b.toByteArray
  | _ => none

def decodeDecimal? : Value → Option Decimal
  | .decimal x => some x
  | .int i => some (.ofInt64 i)
  | .float x => DecimalOfFloat.ofFloat? x
  | .text s => DecimalText.read? (Text.trim s.toList)
  | _ => none

def decodeEnum? (variants : Variants) : Value → Option String
  | .text s => if variants.names.contains s then some s else none
  | .int i => if i.toInt < 0 then none else variants.names[i.toInt.toNat]?
  | _ => none

-- The value of a stored one, in any representation that a vendor may return.
def decode? (t : ColumnType) (v : Value) : Option Value :=
  match v with
  | .null => some .null
  | v =>
    match t with
    | int w => (decodeInt? w v).map .int
    | float _ => (decodeFloat? v).map .float
    | bool => (decodeBool? v).map .bool
    | blob => match v with
      | .bytes b => some (.bytes b)
      | _ => none
    | uuid => (decodeUuid? v).map .uuid
    | date => (decodeDate? v).map .date
    | time => (decodeTime? v).map .time
    | timestamp false => (decodeTimestamp? v).map .timestamp
    | timestamp true => (decodeTimestampTz? v).map .timestampTz
    | string _ => (decodeString? v).map .text
    | decimal .. => (decodeDecimal? v).map .decimal
    | enum _ variants _ => (decodeEnum? variants v).map .text

def decode (t : ColumnType) (v : Value) : Result Value :=
  match t.decode? v with
  | some x => .ok x
  | none => .error (v.mismatch t.text)

-- The stored value written into the text of a statement.
def literal (t : ColumnType) (d : Dialect) (v : Value) : Result String :=
  (t.encode d v).map d.literal

def isInt : ColumnType → Bool
  | int _ => true
  | _ => false

end ColumnType

end PolySql
