import SchemaReshape.Decimal.Binary64

/-!
# Shortest decimals

The decimal with the fewest digits among those that round to a given floating-point magnitude, and
how it is laid out: positionally within a range of exponents, in scientific notation outside it.
-/

namespace SchemaReshape

namespace Binary64

/-- Whether `k * 10 ^ power` rounds to the magnitude: it lies between the midpoints to the two
neighbours, and on a midpoint only if the significand is even. -/
def isRoundedFrom (x : Binary64) (k : Nat) (power : Int) : Bool :=
  let lowerGap := if x.significand = powerOfTwo 52 ∧ minExponent < x.exponent then 1 else 2
  let scaleUp := powerOfTwo (x.exponent - 2).toNat
  let scaleDown := powerOfTwo (2 - x.exponent).toNat
  let low := (4 * x.significand - lowerGap) * scaleUp * powerOfTen (-power).toNat
  let high := (4 * x.significand + 2) * scaleUp * powerOfTen (-power).toNat
  let here := k * scaleDown * powerOfTen power.toNat
  if x.significand % 2 = 0 then low ≤ here && here ≤ high else low < here && here < high

/-- The multiple of `10 ^ power` that rounds to the magnitude and is nearest to it, if any is. -/
def onGrid (x : Binary64) (power : Int) : Option (Nat × Int) :=
  let num := x.toFraction.1 * powerOfTen (-power).toNat
  let den := x.toFraction.2 * powerOfTen power.toNat
  let nearest := roundQuotient num den
  let below := num / den
  if x.isRoundedFrom nearest power then some (nearest, power)
  else if x.isRoundedFrom below power then some (below, power)
  else if x.isRoundedFrom (below + 1) power then some (below + 1, power)
  else none

/-- The coarsest decimal grid with a point that rounds to the magnitude, and that point: the
shortest decimal is `k * 10 ^ power` for the answer `(k, power)`. -/
def shortest (x : Binary64) : Nat × Int :=
  if x.isZero then (0, 0)
  else ((List.range 660).findSome? fun i => x.onGrid (310 - Int.ofNat i)).getD (0, 0)

def leastPositional : Int := -5

def greatestPositional : Int := 15

/-- Digits with a point after the first `whole` of them, at least one digit on either side. -/
def withPoint (digits : List Char) (whole : Int) : List Char :=
  if whole ≤ 0 then ['0', '.'] ++ List.replicate (-whole).toNat '0' ++ digits
  else
    let padded := digits ++ List.replicate (whole.toNat - digits.length) '0'
    let fraction := padded.drop whole.toNat
    padded.take whole.toNat ++ ['.'] ++ if fraction.isEmpty then ['0'] else fraction

/-- A point after the first digit, if there are more, and the exponent with its sign. -/
def scientific (digits : List Char) (exponent : Int) : List Char :=
  let mantissa :=
    match digits with
    | d :: rest => if rest.isEmpty then [d] else d :: '.' :: rest
    | [] => []
  mantissa ++ ['e', if exponent < 0 then '-' else '+'] ++ Nat.toDigits 10 exponent.natAbs

def text (x : Binary64) : String :=
  let (k, power) := x.shortest
  let digits := Nat.toDigits 10 k
  let exponent := power + digits.length - 1
  String.ofList <|
    if leastPositional ≤ exponent ∧ exponent ≤ greatestPositional then
      withPoint digits (exponent + 1)
    else scientific digits exponent

end Binary64

end SchemaReshape
