import PolySql.Dialect.Basic

namespace PolySql.Dialect

def storedBool (d : Dialect) (b : Bool) : Value :=
  match d.booleanForm with
  | .native => .bool b
  | .integer => .int (if b then 1 else 0)

def storedDecimal (d : Dialect) (x : Decimal) : Value :=
  match d.decimalForm with
  | .native => .decimal x
  | .text => .text (String.ofList x.text)

def storedUuid (d : Dialect) (u : Uuid) : Value :=
  match d.uuidForm with
  | .native => .uuid u
  | .binary => .bytes u.octets
  | .text => .text (String.ofList u.text)

-- A date or time as such, or its text.
def storedTemporal (d : Dialect) (native : Value) (text : List Char) : Value :=
  match d.temporalForm with
  | .native => native
  | .text => .text (String.ofList text)

-- The representation of a value whose column is not known.
def stored (d : Dialect) : Value → Value
  | .bool b => d.storedBool b
  | .decimal x => d.storedDecimal x
  | .uuid u => d.storedUuid u
  | .date x => d.storedTemporal (.date x) x.text
  | .time x => d.storedTemporal (.time x) x.text
  | .timestamp x => d.storedTemporal (.timestamp x) (x.text ' ')
  | .timestampTz x => d.storedTemporal (.timestampTz x) x.zonedText
  | v => v

open Text

def quoted (s : List Char) : String :=
  String.ofList (singleQuoted s)

def stringLiteral (d : Dialect) (s : String) : String :=
  d.textMark ++ quoted (if d.backslashEscapes then doubled '\\' s.toList else s.toList)

def bytesLiteral (d : Dialect) (b : List UInt8) : String :=
  d.bytesMarks.opening ++ String.ofList (upperHex b) ++ d.bytesMarks.closing

def temporalLiteral (d : Dialect) (keyword : String) (s : List Char) : String :=
  if d.typedTemporals then keyword ++ " " ++ quoted s else quoted s

def booleanLiteral (d : Dialect) (b : Bool) : String :=
  match d.booleanForm, b with
  | .native, true => "TRUE"
  | .native, false => "FALSE"
  | .integer, true => "1"
  | .integer, false => "0"

-- A stored value written into the text of a statement.
def literal (d : Dialect) : Value → String
  | .null => "NULL"
  | .bool b => d.booleanLiteral b
  | .int i => String.ofList (ofInt i.toInt)
  | .float x => String.ofList (FloatText.render x)
  | .decimal x => String.ofList x.text
  | .text s => d.stringLiteral s
  | .bytes b => d.bytesLiteral b
  | .uuid u => quoted u.text
  | .date x => d.temporalLiteral "DATE" x.text
  | .time x => d.temporalLiteral "TIME" x.text
  | .timestamp x => d.temporalLiteral "TIMESTAMP" (x.text ' ')
  | .timestampTz x => d.temporalLiteral d.zonedKeyword (x.text ' ' ++ "+00:00".toList)

end PolySql.Dialect
