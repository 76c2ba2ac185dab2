import PolySql.Dialect.Feature
import PolySql.Text.Character
import PolySql.Text.Digits

namespace PolySql

inductive SettingError
  | flag (key value : String)
  | number (key value : String)
  | choice (key value expected : String)
  deriving DecidableEq

def SettingError.message : SettingError → String
  | flag key value =>
    key ++ " must be a boolean (true/false, 1/0, yes/no, on/off), got `" ++ value ++ "`"
  | number key value => key ++ " must be a non-negative integer, got `" ++ value ++ "`"
  | choice key value expected => "Invalid value `" ++ value ++ "` for " ++ key ++ ": " ++ expected

-- Named texts in layers; the first layer that has a name decides.
structure Environment where
  layers : List (List (String × String))

namespace Environment

open Text

def get? (e : Environment) (key : String) : Option String :=
  e.layers.findSome? (·.lookup key)

-- Sets a text in the first layer.
def set (e : Environment) (key value : String) : Environment :=
  match e.layers with
  | [] => ⟨[[(key, value)]]⟩
  | top :: rest => ⟨((key, value) :: top.filter (·.1 != key)) :: rest⟩

def cover (e : Environment) (layer : List (String × String)) : Environment :=
  ⟨layer :: e.layers⟩

def truth? (value : String) : Option Bool :=
  let word := String.ofList ((trim value.toList).map Char.toLower)
  if word = "true" ∨ word = "1" ∨ word = "yes" ∨ word = "on" then some true
  else if word = "false" ∨ word = "0" ∨ word = "no" ∨ word = "off" then some false
  else none

def flag (e : Environment) (key : String) (default : Bool) : Except SettingError Bool :=
  match e.get? key with
  | none => .ok default
  | some value =>
    match truth? value with
    | some b => .ok b
    | none => .error (.flag key value)

-- A number of 64 bits, with or without a plus sign.
def natural64? (s : List Char) : Option Nat :=
  (unsigned? s).filter (· < twoTo 64)

def number (e : Environment) (key : String) : Except SettingError (Option Nat) :=
  match e.get? key with
  | none => .ok none
  | some value =>
    match natural64? (trim value.toList) with
    | some n => .ok (some n)
    | none => .error (.number key value)

-- The entries between commas, without blanks around them and without empty ones.
def list (e : Environment) (key : String) : List String :=
  match e.get? key with
  | none => []
  | some value =>
    ((value.toList.splitOn ',').map trim).filterMap fun entry =>
      if entry.isEmpty then none else some (String.ofList entry)

end Environment

namespace Isolation

open Text

-- The upper-case forms that are ASCII letters: those of the small ASCII letters, of the dotless `ı`
-- and of the long `ſ`.
def upperLetter (c : Char) : Char :=
  if c = 'ı' then 'I' else if c = 'ſ' then 'S' else c.toUpper

def spaced (c : Char) : Char :=
  if c = '_' ∨ c = '-' then ' ' else c

-- The level of a text in any case, with blanks, dashes or underscores between its words.
def read? (s : List Char) : Option Isolation :=
  let words := String.ofList ((trim s).map fun c => spaced (upperLetter c))
  [readUncommitted, readCommitted, repeatableRead, serializable].find? (·.sql == words)

def settingKey : String := "STRATA_ISOLATION_LEVEL"

def parse (s : String) : Except SettingError Isolation :=
  match read? s.toList with
  | some i => .ok i
  | none => .error (.choice settingKey s
      "expected read committed, read uncommitted, repeatable read or serializable")

end Isolation

end PolySql
