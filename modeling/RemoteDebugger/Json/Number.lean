import RemoteDebugger.Json.Double.Shortest
import RemoteDebugger.Text.Basic

/-!
# Numbers

A number is a whole number that fits 64 bits, signed or unsigned, or else a double precision
number. The spelling decides: a fraction, an exponent, a negative zero and a whole number out of
range are doubles.
-/

namespace RemoteDebugger

/-- A number of a JSON text. -/
inductive Number where
  | int (value : Int)
  | double (value : Double)
deriving DecidableEq, Repr

namespace Number

/-- The number as an unsigned number of 64 bits. -/
def toNat? : Number → Option Nat
  | .int i    => if 0 ≤ i ∧ i.toNat ≤ Numeral.max64 then some i.toNat else none
  | .double _ => none

/-- The magnitude of the smallest signed number of 64 bits. -/
def maxNegative : Nat := 9223372036854775808

/-- The number as a signed number of 64 bits. -/
def toInt64? : Number → Option Int
  | .int i    => if -(maxNegative : Int) ≤ i ∧ i < maxNegative then some i else none
  | .double _ => none

def write : Number → List Char
  | .int i    => if i < 0 then '-' :: Numeral.write i.natAbs else Numeral.write i.natAbs
  | .double x => x.write

/-- Digits added to a significand as long as it fits 64 bits, and the digits left over. -/
def gather (significand : Nat) : List Char → Nat × List Char
  | []      => (significand, [])
  | d :: ds =>
    let wider := 10 * significand + Numeral.digitValue d
    if wider ≤ Numeral.max64 then gather wider ds else (significand, d :: ds)

/-- A whole number by its sign and magnitude. -/
def ofWhole? (negative : Bool) (magnitude : Nat) : Option Number :=
  if !negative then some (.int magnitude)
  else if 0 < magnitude ∧ magnitude ≤ maxNegative then some (.int (-magnitude))
  else (Double.ofDecimal? true magnitude 0).map .double

/-- A power of ten with an optional sign, digits to the end of the word. -/
def power? : List Char → Option Int
  | '+' :: ds => magnitude? ds
  | '-' :: ds => (magnitude? ds).map (- ·)
  | ds        => magnitude? ds
where
  /-- Digits to the end of the word. -/
  magnitude? (ds : List Char) : Option Int :=
    if ds.isEmpty || !ds.all Char.isDigit then none else some (Numeral.value ds)

/-- A double by sign, significand, the power of ten of its last digit, and the rest of the word,
which may be an exponent. -/
def ofScaled? (negative : Bool) (significand : Nat) (power : Int) : List Char → Option Number
  | []      => (Double.ofDecimal? negative significand power).map .double
  | c :: cs =>
    if c = 'e' ∨ c = 'E' then do
      let e ← power? cs
      (Double.ofDecimal? negative significand (power + e)).map .double
    else none

/-- An unsigned numeral, of the number with the given sign. Digits beyond 64 bits of significand
count for its magnitude only. -/
def ofUnsigned? (negative : Bool) (cs : List Char) : Option Number := do
  let (whole, rest) ← Numeral.scan? cs
  let (significand, dropped) := gather 0 whole
  match rest with
  | [] =>
    if dropped.isEmpty then ofWhole? negative significand
    else ofScaled? negative significand dropped.length []
  | '.' :: cs =>
    let fraction := cs.takeWhile Char.isDigit
    if fraction.isEmpty then none
    else
      let (significand, left) := gather significand fraction
      let power : Int := dropped.length - (fraction.length - left.length : Nat)
      ofScaled? negative significand power (cs.dropWhile Char.isDigit)
  | rest => ofScaled? negative significand dropped.length rest

/-- The number that a word spells, if it is a numeral and in range. -/
def ofWord? : List Char → Option Number
  | '-' :: cs => ofUnsigned? true cs
  | cs        => ofUnsigned? false cs

end Number

end RemoteDebugger
