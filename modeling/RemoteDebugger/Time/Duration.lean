import RemoteDebugger.Text.Basic

/-!
# Durations

Spans of time, counted in nanoseconds, up to the largest one of 64 bits of whole seconds.
-/

namespace RemoteDebugger

/-- A span of time. -/
structure Duration where
  nanoseconds : Nat
deriving DecidableEq, Repr

namespace Duration

def perSecond : Nat := 1000000000

def largest : Duration := ⟨Numeral.max64 * perSecond + (perSecond - 1)⟩

/-- Whole seconds and the nanoseconds beyond them. -/
def ofParts (seconds nanoseconds : Nat) : Duration := ⟨seconds * perSecond + nanoseconds⟩

def ofMilliseconds (n : Nat) : Duration := ⟨n * 1000000⟩

def ofSeconds (n : Nat) : Duration := ⟨n * perSecond⟩

def seconds (d : Duration) : Nat := d.nanoseconds / perSecond

def subseconds (d : Duration) : Nat := d.nanoseconds % perSecond

def min (a b : Duration) : Duration := ⟨Nat.min a.nanoseconds b.nanoseconds⟩

/-- Twice the duration, or the largest one if that is too long. -/
def double (d : Duration) : Duration := ⟨Nat.min (2 * d.nanoseconds) largest.nanoseconds⟩

/-- A count of units with the rest as a fraction of `places` digits, without zeros at its end. -/
def writeUnits (whole rest places : Nat) : List Char :=
  let digits := Numeral.write rest
  let padded := List.replicate (places - digits.length) '0' ++ digits
  let fraction := (padded.reverse.dropWhile (· == '0')).reverse
  Numeral.write whole ++ if fraction.isEmpty then [] else '.' :: fraction

/-- The text of a duration in the largest unit of which it has at least one. -/
def write (d : Duration) : String :=
  let n := d.nanoseconds
  if perSecond ≤ n then String.ofList (writeUnits (n / perSecond) (n % perSecond) 9) ++ "s"
  else if 1000000 ≤ n then String.ofList (writeUnits (n / 1000000) (n % 1000000) 6) ++ "ms"
  else if 1000 ≤ n then String.ofList (writeUnits (n / 1000) (n % 1000) 3) ++ "µs"
  else String.ofList (writeUnits n 0 0) ++ "ns"

end Duration

end RemoteDebugger
