/-!
# Floating-point magnitudes

The finite magnitudes of 64-bit binary floating point as exact numbers, and rounding to the nearest
of them, a tie going to the even significand. Everything is integer arithmetic.
-/

namespace SchemaReshape

def powerOfTwo (n : Nat) : Nat := Nat.pow 2 n

def powerOfTen (n : Nat) : Nat := Nat.pow 10 n

/-- The quotient rounded to the nearest natural number, a half to the even neighbour. -/
def roundQuotient (num den : Nat) : Nat :=
  let quotient := num / den
  let twice := 2 * (num % den)
  if twice < den then quotient
  else if den < twice then quotient + 1
  else quotient + quotient % 2

/-- The magnitude `significand * 2 ^ exponent`. -/
structure Binary64 where
  significand : Nat
  exponent : Int
  deriving DecidableEq, Repr

namespace Binary64

def minExponent : Int := -1074

def maxExponent : Int := 971

def zero : Binary64 := ⟨0, minExponent⟩

def isZero (x : Binary64) : Bool := x.significand = 0

def toFraction (x : Binary64) : Nat × Nat :=
  (x.significand * powerOfTwo x.exponent.toNat, powerOfTwo (-x.exponent).toNat)

/-- The exponent of the greatest power of two that is at most `num / den`. -/
def binaryLog (num den : Nat) : Int :=
  let difference : Int := num.log2 - den.log2
  if den * powerOfTwo difference.toNat ≤ num * powerOfTwo (-difference).toNat then difference
  else difference - 1

/-- The magnitude nearest to `num / den`, or none if that is out of range. -/
def round (num den : Nat) : Option Binary64 :=
  if num = 0 then some zero
  else
    let exponent := max (binaryLog num den - 52) minExponent
    let significand :=
      roundQuotient (num * powerOfTwo (-exponent).toNat) (den * powerOfTwo exponent.toNat)
    let rounded : Binary64 :=
      if significand = powerOfTwo 53 then ⟨powerOfTwo 52, exponent + 1⟩
      else ⟨significand, exponent⟩
    if rounded.exponent ≤ maxExponent then some rounded else none

def ofNat (n : Nat) : Option Binary64 := round n 1

def mul (x y : Binary64) : Option Binary64 :=
  round (x.toFraction.1 * y.toFraction.1) (x.toFraction.2 * y.toFraction.2)

def div (x y : Binary64) : Option Binary64 :=
  round (x.toFraction.1 * y.toFraction.2) (x.toFraction.2 * y.toFraction.1)

def maxPowerOfTen : Nat := 308

def scaleUp (x : Binary64) (power : Nat) : Option Binary64 :=
  if power ≤ maxPowerOfTen then (ofNat (powerOfTen power)).bind x.mul
  else if x.isZero then some x
  else none

/-- The magnitude over a power of ten. A power that is out of range is taken in steps of the
greatest one, each step rounded. -/
def scaleDown (x : Binary64) (power : Nat) : Option Binary64 :=
  if power ≤ maxPowerOfTen then (ofNat (powerOfTen power)).bind x.div
  else if x.isZero then some x
  else
    ((ofNat (powerOfTen maxPowerOfTen)).bind x.div).bind fun y =>
      y.scaleDown (power - maxPowerOfTen)
termination_by power
decreasing_by
  have : 0 < maxPowerOfTen := Nat.zero_lt_succ _
  omega

def scale (x : Binary64) (power : Int) : Option Binary64 :=
  if 0 ≤ power then x.scaleUp power.toNat else x.scaleDown (-power).toNat

end Binary64

end SchemaReshape
