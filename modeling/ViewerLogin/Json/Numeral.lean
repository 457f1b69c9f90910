import ViewerLogin.Decimal.Integer
import ViewerLogin.Decimal.Shortest
import ViewerLogin.Json.Basic
import ViewerLogin.Text.Utf8

/-!
# Numerals

A numeral is a number as it is spelled: digits, a fraction and an exponent. Reading one gives
an integer where the spelling and the size allow it, and otherwise a binary64 value.
-/

namespace ViewerLogin

open Text (Symbol)

structure Numeral where
  negative : Bool
  whole : List Char
  fraction : List Char
  exponent : Option (Bool × List Char)
  deriving DecidableEq, Repr

namespace Numeral

/-! ## Scanning -/

def takeDigits : List Symbol → List Char × List Symbol
  | some character :: rest =>
      if character.isDigit then
        let (digits, after) := takeDigits rest
        (character :: digits, after)
      else
        ([], some character :: rest)
  | symbols => ([], symbols)

def takeWhole? (symbols : List Symbol) : Option (List Char × List Symbol) :=
  match takeDigits symbols with
  | ([], _) => none
  | ('0' :: _ :: _, _) => none
  | (digits, after) => some (digits, after)

def takeFraction? : List Symbol → Option (List Char × List Symbol)
  | some '.' :: rest =>
      match takeDigits rest with
      | ([], _) => none
      | (digits, after) => some (digits, after)
  | symbols => some ([], symbols)

def takeExponentDigits? (negative : Bool) (symbols : List Symbol) :
    Option (Option (Bool × List Char) × List Symbol) :=
  match takeDigits symbols with
  | ([], _) => none
  | (digits, after) => some (some (negative, digits), after)

def takeExponent? : List Symbol → Option (Option (Bool × List Char) × List Symbol)
  | some character :: rest =>
      if character = 'e' ∨ character = 'E' then
        match rest with
        | some '+' :: digits => takeExponentDigits? false digits
        | some '-' :: digits => takeExponentDigits? true digits
        | digits => takeExponentDigits? false digits
      else
        some (none, some character :: rest)
  | symbols => some (none, symbols)

def takeUnsigned? (negative : Bool) (symbols : List Symbol) :
    Option (Numeral × List Symbol) := do
  let (whole, afterWhole) ← takeWhole? symbols
  let (fraction, afterFraction) ← takeFraction? afterWhole
  let (exponent, rest) ← takeExponent? afterFraction
  some (⟨negative, whole, fraction, exponent⟩, rest)

def take? : List Symbol → Option (Numeral × List Symbol)
  | some '-' :: rest => takeUnsigned? true rest
  | symbols => takeUnsigned? false symbols

/-! ## Every numeral takes at least one symbol -/

theorem takeDigits_length (symbols : List Symbol) :
    (takeDigits symbols).1.length + (takeDigits symbols).2.length = symbols.length := by
  fun_induction takeDigits symbols with
  | case1 character rest digit digits after equal induction =>
      simp only [equal, List.length_cons] at induction ⊢
      omega
  | case2 => simp
  | case3 => simp

theorem length_of_takeWhole? {symbols after : List Symbol} {digits : List Char}
    (taken : takeWhole? symbols = some (digits, after)) : after.length < symbols.length := by
  have total := takeDigits_length symbols
  unfold takeWhole? at taken
  split at taken
  · contradiction
  · contradiction
  · next nonempty _ equal =>
      injection taken with taken
      injection taken with sameDigits sameAfter
      subst sameDigits sameAfter
      have positive := List.length_pos_iff.mpr nonempty
      rw [equal] at total
      simp only at total
      omega

theorem length_of_takeFraction? {symbols after : List Symbol} {digits : List Char}
    (taken : takeFraction? symbols = some (digits, after)) : after.length ≤ symbols.length := by
  unfold takeFraction? at taken
  split at taken
  · next rest =>
      have total := takeDigits_length rest
      split at taken
      · contradiction
      · next equal =>
          injection taken with taken
          injection taken with sameDigits sameAfter
          subst sameDigits sameAfter
          rw [equal] at total
          simp only [List.length_cons] at total ⊢
          omega
  · injection taken with taken
    injection taken with _ same
    subst same
    exact Nat.le_refl _

theorem length_of_takeExponentDigits? {negative : Bool} {symbols after : List Symbol}
    {exponent : Option (Bool × List Char)}
    (taken : takeExponentDigits? negative symbols = some (exponent, after)) :
    after.length ≤ symbols.length := by
  have total := takeDigits_length symbols
  unfold takeExponentDigits? at taken
  split at taken
  · contradiction
  · next equal =>
      injection taken with taken
      injection taken with _ same
      subst same
      rw [equal] at total
      simp only at total
      omega

theorem length_of_takeExponent? {symbols after : List Symbol}
    {exponent : Option (Bool × List Char)}
    (taken : takeExponent? symbols = some (exponent, after)) :
    after.length ≤ symbols.length := by
  unfold takeExponent? at taken
  split at taken
  · split at taken
    · split at taken <;> have shorter := length_of_takeExponentDigits? taken <;>
        simp only [List.length_cons] at shorter ⊢ <;> omega
    · injection taken with taken
      injection taken with _ same
      subst same
      exact Nat.le_refl _
  · injection taken with taken
    injection taken with _ same
    subst same
    exact Nat.le_refl _

theorem length_of_takeUnsigned? {negative : Bool} {symbols rest : List Symbol}
    {numeral : Numeral} (taken : takeUnsigned? negative symbols = some (numeral, rest)) :
    rest.length < symbols.length := by
  simp only [takeUnsigned?, Option.bind_eq_bind, Option.bind_eq_some_iff] at taken
  rcases taken with ⟨whole, wholeTaken, fraction, fractionTaken, exponent, exponentTaken, same⟩
  have first := length_of_takeWhole? wholeTaken
  have second := length_of_takeFraction? fractionTaken
  have third := length_of_takeExponent? exponentTaken
  injection same with same
  injection same with _ same
  subst same
  omega

theorem length_of_take? {symbols rest : List Symbol} {numeral : Numeral}
    (taken : take? symbols = some (numeral, rest)) : rest.length < symbols.length := by
  unfold take? at taken
  split at taken
  · have shorter := length_of_takeUnsigned? taken
    simp only [List.length_cons]
    omega
  · exact length_of_takeUnsigned? taken

/-! ## The number of a numeral

The digits are gathered in a significand of 64 bits. Digits of the integer part that do not
fit any more raise the exponent instead; digits of the fraction that do not fit are dropped,
with all that follow them. -/

def significandLimit : Nat := 0x10000000000000000

def absorb (significand : Nat) : List Char → Nat × List Char
  | [] => (significand, [])
  | digit :: rest =>
      let next := significand * 10 + (digit.toNat - 0x30)
      if next < significandLimit then absorb next rest else (significand, digit :: rest)

example : absorb 0 "18446744073709551616".toList = (1844674407370955161, ['6']) := by
  decide +kernel

def exponentLimit : Nat := 0x80000000

def magnitude? (significand : Nat) (shift : Int) :
    Option (Bool × List Char) → Option Decimal.Magnitude
  | none => Decimal.Magnitude.ofDecimal? significand shift
  | some (negative, digits) =>
      let exponent := Nat.ofDigitChars 10 digits 0
      if exponentLimit ≤ exponent then
        if significand ≠ 0 ∧ !negative then none else some Decimal.Magnitude.zero
      else
        Decimal.Magnitude.ofDecimal? significand
          (if negative then shift - exponent else shift + exponent)

def real? (numeral : Numeral) : Option Decimal.Binary64 :=
  let (whole, extra) := absorb 0 numeral.whole
  let (significand, dropped) := absorb whole numeral.fraction
  let kept := numeral.fraction.length - dropped.length
  (magnitude? significand ((extra.length : Int) - kept) numeral.exponent).map
    fun magnitude => ⟨numeral.negative, magnitude⟩

/-- The integer spelled without fraction and exponent, if it is one that numbers can be. There
is no negative zero among the integers. -/
def integer? (numeral : Numeral) : Option Int :=
  let value := Nat.ofDigitChars 10 numeral.whole 0
  if numeral.fraction ≠ [] ∨ numeral.exponent ≠ none then none
  else if numeral.negative then
    if value ≠ 0 ∧ Number.leastInteger ≤ -(value : Int) then some (-(value : Int)) else none
  else
    if (value : Int) < Number.integerLimit then some value else none

def number? (numeral : Numeral) : Option Number :=
  match numeral.integer? with
  | some value => some (.integer value)
  | none => numeral.real?.map .real

end Numeral

/-! ## Writing numbers -/

namespace Number

def layout : Decimal.Layout := ⟨-5, 16⟩

def characters : Number → List Char
  | .integer value => Decimal.integer value
  | .real value => value.layOut layout

def text (number : Number) : String := String.ofList number.characters

end Number

end ViewerLogin
