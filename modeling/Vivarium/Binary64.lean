import Vivarium.Text.Quoted

/-!
# Averages as floating-point numbers

The quotient of two integers rounded once to a binary floating-point number
of 64 bits, its bits, and the shortest decimal that stands for it. All of it
is exact arithmetic on integers.
-/

namespace Vivarium

/-- A finite floating-point number: its magnitude is
`significand * 2 ^ exponent`. The significand has 53 bits, or fewer where the
exponent is the least one. -/
structure Binary64 where
  negative : Bool
  significand : Nat
  exponent : Int
deriving DecidableEq

namespace Binary64

def minExponent : Int := -1074

def maxExponent : Int := 971

def zero : Binary64 := ⟨false, 0, minExponent⟩

instance : Inhabited Binary64 := ⟨zero⟩

/-- A power of two; one where the exponent is negative. -/
def twoPow (exponent : Int) : Nat := Nat.pow 2 exponent.toNat

/-- A power of ten; one where the exponent is negative. -/
def tenPow (exponent : Int) : Nat := Nat.pow 10 exponent.toNat

/-- The integer nearest to a quotient; of two that are equally near, the even
one. -/
def roundQuotient (numerator denominator : Nat) : Nat :=
  let quotient := numerator / denominator
  let remainder := numerator % denominator
  if denominator < 2 * remainder ∨
      (2 * remainder = denominator ∧ quotient % 2 = 1) then
    quotient + 1
  else
    quotient

/-- The greatest power of two that does not exceed a quotient of positive
numbers. -/
def logQuotient (numerator denominator : Nat) : Int :=
  let guess : Int := (numerator.log2 : Int) - denominator.log2
  if denominator * twoPow guess ≤ numerator * twoPow (-guess) then guess
  else guess - 1

/-- The magnitude of a quotient of positive numbers, if it is not too large. -/
def ofMagnitude? (negative : Bool) (numerator denominator : Nat) :
    Option Binary64 :=
  let exponent :=
    max (logQuotient numerator denominator - 52) minExponent
  let rounded :=
    roundQuotient (numerator * twoPow (-exponent))
      (denominator * twoPow exponent)
  let (significand, exponent) :=
    if rounded = twoPow 53 then (twoPow 52, exponent + 1)
    else (rounded, exponent)
  if maxExponent < exponent then none
  else some ⟨negative, significand, exponent⟩

/-- The number nearest to a quotient, unless the quotient is too large for
one. -/
def ofQuotient? (numerator : Int) (denominator : Nat) : Option Binary64 :=
  if numerator = 0 ∨ denominator = 0 then some zero
  else ofMagnitude? (decide (numerator < 0)) numerator.natAbs denominator

def bits (number : Binary64) : Nat :=
  let sign := if number.negative then twoPow 63 else 0
  if number.significand < twoPow 52 then
    sign + number.significand
  else
    sign + (number.exponent + 1075).toNat * twoPow 52 +
      (number.significand - twoPow 52)

def hex (number : Binary64) : String :=
  String.ofList (Text.hexDigits 16 number.bits)

/-! ## Shortest decimals -/

/-- A decimal: `digits * 10 ^ exponent`. -/
structure Decimal where
  digits : Nat
  exponent : Int
deriving DecidableEq

/-- Whether `left * 10 ^ decimal` lies below `right * 2 ^ binary`. -/
def decimalBelow (left : Nat) (decimal : Int) (right : Nat) (binary : Int) :
    Bool :=
  left * tenPow decimal * twoPow (-binary) <
    right * twoPow binary * tenPow (-decimal)

/-- Whether `right * 2 ^ binary` lies below `left * 10 ^ decimal`. -/
def decimalAbove (left : Nat) (decimal : Int) (right : Nat) (binary : Int) :
    Bool :=
  right * twoPow binary * tenPow (-decimal) <
    left * tenPow decimal * twoPow (-binary)

/-- Whether a decimal is read back as a number: it lies no farther than half
way to the two neighbours of the number, where half way itself counts for an
even significand. Below a power of two the neighbour is half as far away. -/
def readsBack (number : Binary64) (decimal : Decimal) : Bool :=
  let significand := number.significand
  let lower :=
    if significand = twoPow 52 ∧ minExponent < number.exponent then
      4 * significand - 1
    else
      4 * significand - 2
  let upper := 4 * significand + 2
  let exponent := number.exponent - 2
  let below := decimalBelow decimal.digits decimal.exponent lower exponent
  let above := decimalAbove decimal.digits decimal.exponent upper exponent
  let atLower :=
    !below && !decimalAbove decimal.digits decimal.exponent lower exponent
  let atUpper :=
    !above && !decimalBelow decimal.digits decimal.exponent upper exponent
  !below && !above && (significand % 2 == 0 || (!atLower && !atUpper))

/-- The number of digits before the point of a positive number; it is zero or
less for a number below one tenth. -/
def scale (number : Binary64) : Int :=
  let guess :=
    ((number.significand.log2 + number.exponent) * 30103) / 100000
  let exceeds (steps : Nat) : Bool :=
    decimalAbove 1 (guess + steps) number.significand number.exponent
  match (List.range 4).find? exceeds with
  | some steps => guess + steps
  | none => guess + 4

/-- The nearest decimal with so many digits that is read back as the number;
of two that are equally near, the even one. -/
def decimalOfLength? (number : Binary64) (length : Nat) : Option Decimal :=
  let exponent := number.scale - length
  let numerator :=
    number.significand * twoPow number.exponent * tenPow (-exponent)
  let denominator :=
    twoPow (-number.exponent) * tenPow exponent
  let low : Decimal := ⟨numerator / denominator, exponent⟩
  let high : Decimal := ⟨numerator / denominator + 1, exponent⟩
  let nearest : Decimal := ⟨roundQuotient numerator denominator, exponent⟩
  if number.readsBack nearest then some nearest
  else if number.readsBack low then some low
  else if number.readsBack high then some high
  else none

/-- The shortest decimal that is read back as a positive number. Seventeen
digits always are enough. -/
def shortest (number : Binary64) : Decimal :=
  ((List.range 17).findSome? fun length =>
    number.decimalOfLength? (length + 1)).getD ⟨0, 0⟩

/-- A decimal with its digits around a point, at least one on either side. -/
def positional (decimal : Decimal) : String :=
  let digits := toString decimal.digits
  let zeros (count : Nat) := String.ofList (List.replicate count '0')
  if 0 ≤ decimal.exponent then
    digits ++ zeros decimal.exponent.toNat ++ ".0"
  else
    let places := (-decimal.exponent).toNat
    let padded := (zeros (places + 1 - digits.length) ++ digits).toList
    let whole := padded.length - places
    String.ofList (padded.take whole) ++ "." ++
      String.ofList (padded.drop whole)

def text (number : Binary64) : String :=
  if number.significand = 0 then "0.0"
  else
    let magnitude := positional number.shortest
    if number.negative then "-" ++ magnitude else magnitude

end Binary64

end Vivarium
