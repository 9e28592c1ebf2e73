import RemoteDebugger.Json.Double

/-!
# Shortest decimals

The shortest decimal numeral that lies closer to a double precision number than to any other one,
and of those the nearest, with the layout that such numbers are written in.
-/

namespace RemoteDebugger.Double

/-- The decimal digits of a positive number and the power of ten of the first one: `d.ddd * 10 ^
e`. -/
structure Digits where
  digits : List Char
  power  : Int
deriving DecidableEq, Repr

/-- The interval of fractions that round to a number, `low / den` to `high / den` around
`value / den`. The ends belong to it for an even significand. -/
structure Neighbourhood where
  low    : Nat
  value  : Nat
  high   : Nat
  den    : Nat
  closed : Bool

/-- The neighbourhood of a positive number. Below a power of two the next number is nearer. -/
def neighbourhood (x : Double) : Neighbourhood :=
  let below := if x.significand = minSignificand && x.exponent != minExponent then 1 else 2
  let (unit, den) := shift 1 4 x.exponent
  { low    := (4 * x.significand - below) * unit
    value  := 4 * x.significand * unit
    high   := (4 * x.significand + 2) * unit
    den
    closed := x.significand % 2 == 0 }

/-- Whether the fraction `num / den` rounds to the number. -/
def Neighbourhood.contains (n : Neighbourhood) (num den : Nat) : Bool :=
  let low := n.low * den
  let high := n.high * den
  let mid := num * n.den
  if n.closed then low ≤ mid && mid ≤ high else low < mid && mid < high

/-- The power of ten of the first digit of `num / den`, which is at least `10 ^ -340`. -/
def decimalLog (num den : Nat) : Int :=
  (Nat.toDigits 10 (num * Nat.pow 10 340 / den)).length - 341

/-- The multiple of `10 ^ k` in the neighbourhood that is nearest to the number, as a count. Only
the two multiples around the number need to be looked at. -/
def Neighbourhood.nearest? (n : Neighbourhood) (k : Int) : Option Nat :=
  let up := Nat.pow 10 k.toNat
  let down := Nat.pow 10 (-k).toNat
  let below := n.value * down / (n.den * up)
  let rest := n.value * down % (n.den * up)
  let hit (c : Nat) : Bool := n.contains (c * up) down
  if rest = 0 then some below
  else match hit below, hit (below + 1) with
    | true, true =>
      some (if 2 * rest < n.den * up || (2 * rest == n.den * up && below % 2 == 0) then below
        else below + 1)
    | true, false  => some below
    | false, true  => some (below + 1)
    | false, false => none

/-- The shortest digits among `count` and more, up to 17, which always suffice. -/
def shortestFrom (n : Neighbourhood) (power : Int) (count : Nat) : Nat → Nat × Int
  | 0        => ((n.nearest? (power - 16)).getD 0, power - 16)
  | fuel + 1 =>
    let k := power - count + 1
    match n.nearest? k with
    | some c => (c, k)
    | none   => shortestFrom n power (count + 1) fuel

/-- The shortest digits of a positive number, without zeros at the end. -/
def shortest (x : Double) : Digits :=
  let n := x.neighbourhood
  let (count, k) := shortestFrom n (decimalLog n.value n.den) 1 16
  let digits := Nat.toDigits 10 count
  { digits := (digits.reverse.dropWhile (· == '0')).reverse
    power  := k + digits.length - 1 }

/-- The layout of a number's digits: positional from `0.00001` up to below `10 ^ 16`, with at
least one place after the point, and with a signed exponent otherwise. -/
def Digits.write (d : Digits) : List Char :=
  let n := d.digits.length
  if d.power < -5 || 16 ≤ d.power then
    let exponent := (if d.power < 0 then '-' else '+') :: Nat.toDigits 10 d.power.natAbs
    match d.digits with
    | []      => []
    | [c]     => c :: 'e' :: exponent
    | c :: cs => c :: '.' :: cs ++ 'e' :: exponent
  else if d.power < 0 then
    '0' :: '.' :: List.replicate (d.power.natAbs - 1) '0' ++ d.digits
  else
    let whole := d.power.toNat + 1
    if n ≤ whole then d.digits ++ List.replicate (whole - n) '0' ++ ['.', '0']
    else d.digits.take whole ++ '.' :: d.digits.drop whole

def write (x : Double) : List Char :=
  let magnitude := if x.significand = 0 then ['0', '.', '0'] else x.shortest.write
  if x.negative then '-' :: magnitude else magnitude

end RemoteDebugger.Double
