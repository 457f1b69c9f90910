/-!
# Decimal integers

Integers are written in plain decimal and read with an optional sign and any number of
leading zeros.
-/

namespace ViewerLogin.Decimal

/-! ## Writing -/

def natural (value : Nat) : List Char := Nat.toDigits 10 value

def integer : Int → List Char
  | .ofNat value => natural value
  | .negSucc below => '-' :: natural (below + 1)

example : integer 256 = "256".toList ∧ integer (-1) = "-1".toList := by decide

/-! ## Reading -/

def readNatural? (characters : List Char) : Option Nat :=
  if characters ≠ [] ∧ characters.all Char.isDigit then
    some (Nat.ofDigitChars 10 characters 0)
  else
    none

def readInteger? : List Char → Option Int
  | '+' :: digits => (readNatural? digits).map Int.ofNat
  | '-' :: digits => (readNatural? digits).map fun value => -(value : Int)
  | digits => (readNatural? digits).map Int.ofNat

example : readInteger? "+007".toList = some 7 ∧ readInteger? "-0".toList = some 0 := by decide

example : readInteger? "+".toList = none ∧ readInteger? "1_0".toList = none := by decide

end ViewerLogin.Decimal
