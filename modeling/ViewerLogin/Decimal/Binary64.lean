import ViewerLogin.Decimal.Power

/-!
# Numbers of the binary64 format

A number with a fraction or an exponent is one of the finite binary64 values. They are kept
as exact integers and rounded by exact arithmetic, to the nearest value and in a tie to the
one with an even mantissa.
-/

namespace ViewerLogin.Decimal

structure Magnitude where
  mantissa : Nat
  exponent : Int
  deriving DecidableEq, Repr

structure Binary64 where
  negative : Bool
  magnitude : Magnitude
  deriving DecidableEq, Repr

namespace Magnitude

/-! ## The format -/

def mantissaLimit : Nat := 0x20000000000000

def leastExponent : Int := -1074

def greatestExponent : Int := 971

def zero : Magnitude := ⟨0, leastExponent⟩

def isZero (magnitude : Magnitude) : Bool := magnitude.mantissa == 0

def ratio (magnitude : Magnitude) : Nat × Nat :=
  if 0 ≤ magnitude.exponent then
    (magnitude.mantissa * twoTo magnitude.exponent.toNat, 1)
  else
    (magnitude.mantissa, twoTo (-magnitude.exponent).toNat)

/-! ## Rounding -/

/-- The quotient nearest to `numerator / denominator`, the even one in a tie. -/
def divideToNearest (numerator denominator : Nat) : Nat :=
  let quotient := numerator / denominator
  let remainder := numerator % denominator
  if 2 * remainder < denominator then quotient
  else if denominator < 2 * remainder then quotient + 1
  else quotient + quotient % 2

example : divideToNearest 5 2 = 2 ∧ divideToNearest 7 2 = 4 ∧ divideToNearest 8 3 = 3 := by
  decide

def exponentOf (numerator denominator : Nat) : Int :=
  -- The logarithms leave the estimate at most one too low.
  let estimate : Int := (numerator.log2 : Int) - denominator.log2 - 53
  let fits (exponent : Int) : Bool :=
    numerator * twoTo (-exponent).toNat < mantissaLimit * denominator * twoTo exponent.toNat
  let exponent := if fits estimate then estimate else estimate + 1
  max exponent leastExponent

def round? (numerator denominator : Nat) : Option Magnitude :=
  if numerator = 0 then
    some zero
  else
    let exponent := exponentOf numerator denominator
    let mantissa := divideToNearest (numerator * twoTo (-exponent).toNat)
      (denominator * twoTo exponent.toNat)
    let rounded : Magnitude :=
      if mantissa < mantissaLimit then ⟨mantissa, exponent⟩ else ⟨mantissa / 2, exponent + 1⟩
    if rounded.exponent ≤ greatestExponent then some rounded else none

example : round? 1 1 = some ⟨twoTo 52, -52⟩ := by decide +kernel

example : round? (twoTo 53 + 1) 1 = some ⟨twoTo 52, 1⟩ := by decide +kernel

example : round? 1 (twoTo 1075) = some zero := by decide +kernel

example : round? (twoTo 1024) 1 = none := by decide +kernel

/-! ## Products and quotients -/

def multiply? (left right : Magnitude) : Option Magnitude :=
  round? (left.ratio.1 * right.ratio.1) (left.ratio.2 * right.ratio.2)

def divide? (left right : Magnitude) : Option Magnitude :=
  round? (left.ratio.1 * right.ratio.2) (left.ratio.2 * right.ratio.1)

def powerOfTen? (exponent : Nat) : Option Magnitude := round? (tenTo exponent) 1

end Magnitude

/-! ## A significand with a decimal exponent

The significand is rounded first and then scaled by one power of ten, itself rounded.
Exponents below the least one take one more step for each `308` of them. -/

namespace Magnitude

def greatestPower : Nat := 308

def scale? (magnitude : Magnitude) (exponent : Int) : Option Magnitude :=
  if exponent.natAbs ≤ greatestPower then
    (powerOfTen? exponent.natAbs).bind fun power =>
      if 0 ≤ exponent then magnitude.multiply? power else magnitude.divide? power
  else if magnitude.isZero then
    some magnitude
  else if 0 ≤ exponent then
    none
  else
    (powerOfTen? greatestPower).bind fun power =>
      (magnitude.divide? power).bind fun scaled => scaled.scale? (exponent + greatestPower)
termination_by exponent.natAbs
decreasing_by simp only [greatestPower] at *; omega

def ofDecimal? (significand : Nat) (exponent : Int) : Option Magnitude :=
  (round? significand 1).bind fun magnitude => magnitude.scale? exponent

end Magnitude

end ViewerLogin.Decimal
