import PolySql.Dialect.Basic
import PolySql.Text.Digits

namespace PolySql

-- A span of time in nanoseconds.
structure Duration where
  nanos : Nat
  deriving DecidableEq

namespace Duration

open Text

def ofMillis (n : Nat) : Duration := ⟨n * tenTo 6⟩

def ofMicros (n : Nat) : Duration := ⟨n * tenTo 3⟩

def millis (d : Duration) : Nat := d.nanos / tenTo 6

def stripZeros (s : List Char) : List Char :=
  (s.reverse.dropWhile (· == '0')).reverse

-- A number of units with as many of its places as are needed.
def inUnits (n places : Nat) (unit : String) : String :=
  let rest := stripZeros (padded places (n % tenTo places))
  String.ofList (ofNat (n / tenTo places) ++ (if n % tenTo places = 0 then [] else '.' :: rest)) ++
    unit

-- The span in the largest unit of which there is at least one.
def shown (d : Duration) : String :=
  if tenTo 9 ≤ d.nanos then inUnits d.nanos 9 "s"
  else if tenTo 6 ≤ d.nanos then inUnits d.nanos 6 "ms"
  else if tenTo 3 ≤ d.nanos then inUnits d.nanos 3 "µs"
  else inUnits d.nanos 0 "ns"

end Duration

structure RetryPolicy where
  maxAttempts : Nat
  minDelay : Duration
  maxDelay : Duration
  deriving DecidableEq

namespace RetryPolicy

def standard : RetryPolicy := ⟨3, ⟨0⟩, ⟨0⟩⟩

def noRetry : RetryPolicy := { standard with maxAttempts := 1 }

-- The least and the greatest delay before another attempt. Where there is a choice, it is one of
-- whole milliseconds.
def delayRange (p : RetryPolicy) : Duration × Duration :=
  if p.maxDelay.nanos ≤ p.minDelay.nanos then (p.minDelay, p.minDelay)
  else (.ofMillis p.minDelay.millis, .ofMillis p.maxDelay.millis)

-- The delay before another attempt, if it does not depend on chance.
def fixedDelay? (p : RetryPolicy) : Option Duration :=
  let (low, high) := p.delayRange
  if low = high then some low else none

end RetryPolicy

-- Is the error below its contexts one of the database that may not arise again?
def Dialect.isRetryableError (d : Dialect) (extraStates : List String) (e : DatabaseError) : Bool :=
  e.driverError?.any fun driver =>
    d.isRetryable driver || driver.sqlstate.any extraStates.contains

end PolySql
