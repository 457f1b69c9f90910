import ViewerLogin.Decimal.Binary64

/-!
# Shortest decimals

A binary64 value is written with the fewest digits that read back as the same value; of two
decimals with that many digits the nearer one is taken, and in a tie the even one.
-/

namespace ViewerLogin.Decimal

/-- The value `0.digits * 10 ^ point`: `digits` without zeros at either end, and the place of
the decimal point counted from the first digit. -/
structure Shortest where
  digits : List Char
  point : Int
  deriving DecidableEq, Repr

namespace Shortest

/-! ## The interval of a value

All decimals between the midpoints to the two neighbours read back as the value, the midpoints
themselves when the mantissa is even. The three points are kept as numerators over one
denominator. -/

structure Interval where
  low : Nat
  middle : Nat
  high : Nat
  denominator : Nat
  closed : Bool

/-- The neighbour below a power of two is only half as far away. -/
def intervalOf (magnitude : Magnitude) : Interval :=
  let mantissa := magnitude.mantissa
  let gap := if mantissa = twoTo 52 ∧ Magnitude.leastExponent < magnitude.exponent then 1 else 2
  let exponent := magnitude.exponent - 2
  let scale := twoTo exponent.toNat
  { low := (4 * mantissa - gap) * scale
    middle := 4 * mantissa * scale
    high := (4 * mantissa + 2) * scale
    denominator := twoTo (-exponent).toNat
    closed := mantissa % 2 = 0 }

def Interval.inUnitsOf (interval : Interval) (exponent : Int) : Interval :=
  let factor := tenTo (-exponent).toNat
  { interval with
    low := interval.low * factor
    middle := interval.middle * factor
    high := interval.high * factor
    denominator := interval.denominator * tenTo exponent.toNat }

def Interval.contains (interval : Interval) (value : Nat) : Bool :=
  let scaled := value * interval.denominator
  if interval.closed then
    interval.low ≤ scaled && scaled ≤ interval.high
  else
    interval.low < scaled && scaled < interval.high

def Interval.nearest? (interval : Interval) : Option Nat :=
  let below := interval.middle / interval.denominator
  let inside := [below, below + 1].filter interval.contains
  match inside with
  | [] => none
  | [only] => some only
  | _ =>
      let remainder := interval.middle % interval.denominator
      if 2 * remainder < interval.denominator then some below
      else if interval.denominator < 2 * remainder then some (below + 1)
      else some (below + below % 2)

/-! ## The search -/

/-- The number of digits before the decimal point of `numerator / denominator`; for a value
below one, minus the number of zeros after the point. -/
def pointOf (numerator denominator : Nat) : Int :=
  if denominator ≤ numerator then
    (Nat.toDigits 10 (numerator / denominator)).length
  else
    let least := (denominator + numerator - 1) / numerator
    1 - (Nat.toDigits 10 (least - 1)).length

def dropZeros (digits : List Char) : List Char :=
  (digits.reverse.dropWhile (· == '0')).reverse

def search (interval : Interval) (point : Int) : (tries count : Nat) → Shortest
  | 0, _ => ⟨['0'], 1⟩
  | tries + 1, count =>
      match (interval.inUnitsOf (point - count)).nearest? with
      | some value =>
          let digits := Nat.toDigits 10 value
          ⟨dropZeros digits, point - count + digits.length⟩
      | none => search interval point tries (count + 1)

def ofMagnitude (magnitude : Magnitude) : Shortest :=
  if magnitude.isZero then
    ⟨['0'], 1⟩
  else
    let interval := intervalOf magnitude
    -- Seventeen digits always suffice.
    search interval (pointOf interval.middle interval.denominator) 17 1

example : ofMagnitude ⟨twoTo 52, -52⟩ = ⟨['1'], 1⟩ := by decide +kernel

example : ofMagnitude ⟨1, -1074⟩ = ⟨['5'], -323⟩ := by decide +kernel

example : ofMagnitude ⟨0x1999999999999A, -56⟩ = ⟨['1'], 0⟩ := by decide +kernel

end Shortest

/-! ## Layout -/

structure Layout where
  least : Int
  limit : Int

namespace Shortest

def positional (shortest : Shortest) : List Char :=
  if shortest.point ≤ 0 then
    "0.".toList ++ List.replicate (-shortest.point).toNat '0' ++ shortest.digits
  else
    let whole := shortest.point.toNat
    let fraction := shortest.digits.drop whole
    shortest.digits.take whole ++ List.replicate (whole - shortest.digits.length) '0' ++
      '.' :: (if fraction.isEmpty then ['0'] else fraction)

def scientific (shortest : Shortest) : List Char :=
  let exponent := shortest.point - 1
  let fraction := shortest.digits.drop 1
  shortest.digits.take 1 ++ (if fraction.isEmpty then [] else '.' :: fraction) ++
    'e' :: (if exponent < 0 then '-' else '+') :: Nat.toDigits 10 exponent.natAbs

def layOut (layout : Layout) (shortest : Shortest) : List Char :=
  if layout.least < shortest.point ∧ shortest.point ≤ layout.limit then
    shortest.positional
  else
    shortest.scientific

end Shortest

def Binary64.layOut (layout : Layout) (value : Binary64) : List Char :=
  (if value.negative then ['-'] else []) ++
    (Shortest.ofMagnitude value.magnitude).layOut layout

end ViewerLogin.Decimal
