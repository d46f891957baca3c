import SchemaReshape.Decimal.Shortest
import SchemaReshape.Parsed.Value

/-!
# Numerals

The value of a number as it is written. A whole number that fits 64 bits (with a sign: 64 bits with
a sign) keeps its digits; any other becomes a floating-point number. That number is computed from
the digits that fit 64 bits, scaled by a power of ten.
-/

namespace SchemaReshape

structure Exponent where
  negative : Bool
  digits : List Char

structure Numeral where
  negative : Bool
  whole : List Char
  fraction? : Option (List Char)
  exponent? : Option Exponent

namespace Numeral

def wordSize : Nat := powerOfTwo 64

def maxExponent : Nat := powerOfTwo 31 - 1

def digitValue (c : Char) : Nat := c.toNat - '0'.toNat

def natValue (digits : List Char) : Nat := digits.foldl (fun n c => 10 * n + digitValue c) 0

/-- Appends digits to a significand while it fits a word; the answer has the digits left over. -/
def accumulate (significand : Nat) : List Char → Nat × List Char
  | [] => (significand, [])
  | c :: cs =>
    let next := 10 * significand + digitValue c
    if next < wordSize then accumulate next cs else (significand, c :: cs)

/-- The significand, and the power of ten of its last digit: a digit left over before the point
raises the power, one after the point is dropped. -/
def significand (n : Numeral) : Nat × Int :=
  let fraction := n.fraction?.getD []
  let (whole, unread) := accumulate 0 n.whole
  let (all, dropped) := accumulate whole fraction
  (all, unread.length - (fraction.length - dropped.length))

def magnitude (n : Numeral) : Option Binary64 :=
  let (digits, power) := n.significand
  match n.exponent? with
  | none => (Binary64.ofNat digits).bind (·.scale power)
  | some e =>
    let exponent := natValue e.digits
    if maxExponent < exponent then
      if digits = 0 ∨ e.negative then some .zero else none
    else
      let shift : Int := if e.negative then -exponent else exponent
      (Binary64.ofNat digits).bind (·.scale (power + shift))

def int? (n : Numeral) : Option Parsed.Number :=
  let m := natValue n.whole
  if n.fraction?.isSome || n.exponent?.isSome then none
  else if n.negative then
    if 0 < m ∧ m ≤ wordSize / 2 then some ⟨false, String.ofList ('-' :: n.whole)⟩ else none
  else if m < wordSize then some ⟨false, String.ofList n.whole⟩
  else none

def value (n : Numeral) : Option Parsed.Number :=
  match n.int? with
  | some v => some v
  | none => n.magnitude.map fun x => ⟨true, (if n.negative then "-" else "") ++ x.text⟩

end Numeral

end SchemaReshape
