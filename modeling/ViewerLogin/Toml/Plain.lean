import ViewerLogin.Decimal.Binary64
import ViewerLogin.Text.Hex
import ViewerLogin.Text.Split
import ViewerLogin.Toml.Basic
import ViewerLogin.Toml.DateTime

/-!
# Plain values

Truth values, numbers and date-times are written without quotation marks. The digits of a
number may be set in groups, with single underscores between them.
-/

namespace ViewerLogin.Toml.Plain

/-! ## Digits -/

def ungroup? (characters : List Char) : Option (List Char) :=
  let groups := Text.split '_' characters
  if groups.any List.isEmpty then none else some groups.flatten

def digits? (characters : List Char) : Option (List Char) :=
  (ungroup? characters).filter fun digits => digits.all Char.isDigit

def whole? (characters : List Char) : Option (List Char) :=
  (digits? characters).filter fun digits => digits.head? ≠ some '0' ∨ digits.length = 1

example : whole? "1_000".toList = some "1000".toList := by decide

example : whole? "01".toList = none ∧ whole? "1__0".toList = none := by decide

def inBase? (base : Nat) (digits : List Char) : Option Nat :=
  digits.foldlM (fun value digit =>
    (Text.Hex.value? digit).bind fun next =>
      if next < base then some (value * base + next) else none) 0

def cutSign : List Char → Bool × List Char
  | '-' :: rest => (true, rest)
  | '+' :: rest => (false, rest)
  | characters => (false, characters)

/-! ## Integers -/

def integerLimit : Nat := 0x8000000000000000

def natural? (base : Nat) (characters : List Char) : Option Int :=
  ((ungroup? characters).bind (inBase? base)).bind fun value =>
    if value < integerLimit then some (value : Int) else none

def signed? (characters : List Char) : Option Int :=
  let (negative, rest) := cutSign characters
  ((whole? rest).bind (inBase? 10)).bind fun value =>
    if negative then (if value ≤ integerLimit then some (-(value : Int)) else none)
    else (if value < integerLimit then some (value : Int) else none)

/-- Only decimal integers have a sign. -/
def integer? : List Char → Option Int
  | '0' :: 'x' :: rest => natural? 16 rest
  | '0' :: 'o' :: rest => natural? 8 rest
  | '0' :: 'b' :: rest => natural? 2 rest
  | characters => signed? characters

example : integer? "0xFf".toList = some 255 ∧ integer? "+1_0".toList = some 10 := by
  decide +kernel

example : integer? "9223372036854775808".toList = none := by decide +kernel

/-! ## Real numbers -/

def isExponentMark (character : Char) : Bool := character = 'e' || character = 'E'

def exponent? : List Char → Option Int
  | [] => some 0
  | _ :: rest =>
      let (negative, digits) := cutSign rest
      (digits? digits).map fun digits =>
        let value : Int := Nat.ofDigitChars 10 digits 0
        if negative then -value else value

def fraction? : List Char → Option (List Char)
  | [] => some []
  | _ :: rest => digits? rest

def greatestSize : Int := 310

def overflows (digits : List Char) (scale : Int) : Bool :=
  let significant := digits.dropWhile (· == '0')
  let value := Nat.ofDigitChars 10 significant 0
  let size := significant.length + scale
  if significant = [] ∨ size < 0 then false
  else if greatestSize < size then true
  else (Decimal.Magnitude.round? (value * Decimal.tenTo scale.toNat)
    (Decimal.tenTo (-scale).toNat)).isNone

example : overflows "17".toList 307 = false ∧ overflows "18".toList 307 = true := by
  decide +kernel

/-- A number with a fraction or an exponent. Below zero no number is too great. -/
def isReal (characters : List Char) : Bool :=
  let (negative, rest) := cutSign characters
  let mantissa := rest.takeWhile (!isExponentMark ·)
  let exponent := rest.dropWhile (!isExponentMark ·)
  let fraction := mantissa.dropWhile (· ≠ '.')
  match whole? (mantissa.takeWhile (· ≠ '.')), fraction? fraction, exponent? exponent with
  | some whole, some digits, some shift =>
      (fraction ≠ [] || exponent ≠ []) &&
        (negative || !overflows (whole ++ digits) (shift - digits.length))
  | _, _, _ => false

def isSpecial (characters : List Char) : Bool :=
  (cutSign characters).2 ∈ ["inf".toList, "nan".toList]

example : isReal "-6.0_2E+23".toList = true ∧ isReal "1e999".toList = false := by
  decide +kernel

example : isReal "1".toList = false ∧ isReal "1.".toList = false ∧ isReal ".5".toList = false := by
  decide +kernel

/-! ## All plain values -/

def read? (characters : List Char) : Option Toml :=
  if characters = "true".toList then some (.truth true)
  else if characters = "false".toList then some (.truth false)
  else if DateTime.isDateTime characters then some .dateTime
  else if isReal characters ∨ isSpecial characters then some .real
  else (integer? characters).map .integer

end ViewerLogin.Toml.Plain
