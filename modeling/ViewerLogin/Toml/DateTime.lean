/-!
# Dates and times

A date has a year, a month and a day of that month; a time may stand by itself or after a
date, where an offset may follow it.
-/

namespace ViewerLogin.Toml.DateTime

/-! ## Numbers of two digits -/

def pair? (tens ones : Char) : Option Nat :=
  if tens.isDigit ∧ ones.isDigit then some (Nat.ofDigitChars 10 [tens, ones] 0) else none

def isWithin (least greatest : Nat) (tens ones : Char) : Bool :=
  (pair? tens ones).any fun value => least ≤ value && value ≤ greatest

/-! ## Dates -/

def isLeapYear (year : Nat) : Bool := year % 4 = 0 && (year % 100 ≠ 0 || year % 400 = 0)

def daysOf (year month : Nat) : Nat :=
  if month = 2 then (if isLeapYear year then 29 else 28)
  else if month ∈ [4, 6, 9, 11] then 30
  else 31

def isDate : List Char → Bool
  | [first, second, third, fourth, '-', monthTens, monthOnes, '-', dayTens, dayOnes] =>
      match pair? first second, pair? third fourth, pair? monthTens monthOnes with
      | some century, some year, some month =>
          1 ≤ month && month ≤ 12 &&
            isWithin 1 (daysOf (century * 100 + year) month) dayTens dayOnes
      | _, _, _ => false
  | _ => false

example : isDate "2024-02-29".toList = true ∧ isDate "2023-02-29".toList = false := by decide

/-! ## Times -/

def dropFraction : List Char → List Char
  | '.' :: digit :: rest =>
      if digit.isDigit then rest.dropWhile Char.isDigit else '.' :: digit :: rest
  | characters => characters

/-- What follows the time at the head. A minute may have a leap second. -/
def afterTime? : List Char → Option (List Char)
  | hourTens :: hourOnes :: ':' :: minuteTens :: minuteOnes :: ':' :: secondTens ::
      secondOnes :: rest =>
      if isWithin 0 23 hourTens hourOnes ∧ isWithin 0 59 minuteTens minuteOnes ∧
          isWithin 0 60 secondTens secondOnes then
        some (dropFraction rest)
      else
        none
  | _ => none

def isTime (characters : List Char) : Bool := afterTime? characters = some []

def isOffset : List Char → Bool
  | [] | ['Z'] | ['z'] => true
  | [sign, hourTens, hourOnes, ':', minuteTens, minuteOnes] =>
      (sign = '+' || sign = '-') && isWithin 0 23 hourTens hourOnes &&
        isWithin 0 59 minuteTens minuteOnes
  | _ => false

/-! ## Both -/

def isDelimiter (character : Char) : Bool :=
  character = 'T' || character = 't' || character = ' '

def isDateWithTime (characters : List Char) : Bool :=
  isDate (characters.take 10) &&
    match characters.drop 10 with
    | delimiter :: rest => isDelimiter delimiter && (afterTime? rest).any isOffset
    | [] => false

def isDateTime (characters : List Char) : Bool :=
  isDate characters || isTime characters || isDateWithTime characters

example : isDateTime "1979-05-27 07:32:00.5-07:00".toList = true := by decide

example : isDateTime "07:32".toList = false ∧ isDateTime "07:32:00Z".toList = false := by decide

end ViewerLogin.Toml.DateTime
