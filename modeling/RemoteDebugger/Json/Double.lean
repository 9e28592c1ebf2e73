/-!
# Double precision numbers

Finite binary numbers with a significand of 53 bits, kept as sign, significand and exponent, with
the arithmetic that reading a decimal numeral takes. Every result is the exact one rounded to the
nearest number, a tie to the even significand; a result too large has none.
-/

namespace RemoteDebugger

/-- The number `significand * 2 ^ exponent`, negated if `negative`. -/
structure Double where
  negative    : Bool := false
  significand : Nat
  exponent    : Int
deriving DecidableEq, Repr

namespace Double

/-- The exponent of the smallest numbers. -/
def minExponent : Int := -1074

/-- The exponent of the largest numbers. -/
def maxExponent : Int := 971

/-- The smallest significand of 53 bits. Only numbers with the smallest exponent have a smaller
one. -/
def minSignificand : Nat := 4503599627370496

/-- Zero, with the sign that it was written with. -/
def zero (negative : Bool) : Double := { negative, significand := 0, exponent := minExponent }

/-- The whole number nearest to `num / den`, a tie to the even one. -/
def roundDiv (num den : Nat) : Nat :=
  let q := num / den
  let r := 2 * (num % den)
  if r < den || (r == den && q % 2 == 0) then q else q + 1

/-- The fraction `num / den * 2 ^ e` as numerator and denominator. -/
def shift (num den : Nat) (e : Int) : Nat × Nat :=
  if 0 ≤ e then (num <<< e.toNat, den) else (num, den <<< (-e).toNat)

/-- The largest `k` with `2 ^ k ≤ num / den`, for positive `num` and `den`. -/
def binaryLog (num den : Nat) : Int :=
  let k : Int := (num.log2 : Int) - den.log2
  let (n, d) := shift num den (-k)
  if d ≤ n then k else k - 1

/-- The number nearest to `num / den * 2 ^ e`. -/
def ofRatio? (num den : Nat) (e : Int) : Option Double :=
  if num = 0 then some (zero false)
  else
    let exponent := max (binaryLog num den + e - 52) minExponent
    let (n, d) := shift num den (e - exponent)
    let significand := roundDiv n d
    let (significand, exponent) :=
      if significand = 2 * minSignificand then (minSignificand, exponent + 1)
      else (significand, exponent)
    if exponent ≤ maxExponent then some { significand, exponent } else none

/-- The product of two magnitudes. -/
def mul? (a b : Double) : Option Double :=
  ofRatio? (a.significand * b.significand) 1 (a.exponent + b.exponent)

/-- The quotient of two magnitudes, for a positive divisor. -/
def div? (a b : Double) : Option Double :=
  ofRatio? a.significand b.significand (a.exponent - b.exponent)

def powerOfTen? (k : Nat) : Option Double := ofRatio? (Nat.pow 10 k) 1 0

/-- The largest exponent of a power of ten that is in range. -/
def maxPowerOfTen : Nat := 308

/-- `x / 10 ^ k` in steps of at most `10 ^ 308`, each rounded. -/
def divPowerOfTen? (x : Double) (k : Nat) : Option Double :=
  if x.significand = 0 then some x
  else if _h : k ≤ maxPowerOfTen then do x.div? (← powerOfTen? k)
  else do
    let y ← x.div? (← powerOfTen? maxPowerOfTen)
    divPowerOfTen? y (k - maxPowerOfTen)
  termination_by k
  decreasing_by simp only [maxPowerOfTen] at *; omega

/-- `x * 10 ^ k`, rounded once. -/
def mulPowerOfTen? (x : Double) (k : Nat) : Option Double :=
  if x.significand = 0 then some x
  else if k ≤ maxPowerOfTen then do x.mul? (← powerOfTen? k)
  else none

/-- The number read from a decimal significand and a power of ten: the significand is rounded,
then scaled. -/
def ofDecimal? (negative : Bool) (significand : Nat) (power : Int) : Option Double := do
  let x ← ofRatio? significand 1 0
  let y ← if 0 ≤ power then x.mulPowerOfTen? power.toNat else x.divPowerOfTen? (-power).toNat
  some { y with negative }

end Double

end RemoteDebugger
