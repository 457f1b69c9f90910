import ViewerLogin.Text.Hex

/-!
# Identifiers

Agents, sessions, folders and assets are named by 128-bit identifiers. They are written with
lower-case digits in five groups; on reading the groups may be run together, put in braces or
led by the name of the scheme.
-/

namespace ViewerLogin

def Uuid.limit : Nat := 0x100000000000000000000000000000000

structure Uuid where
  value : Nat
  value_lt : value < Uuid.limit
  deriving DecidableEq, Repr

namespace Uuid

def ofNat (value : Nat) : Uuid := ⟨value % limit, Nat.mod_lt _ (by decide)⟩

def nil : Uuid := ofNat 0

/-! ## Groups -/

def hyphenate (digits : List Char) : List Char :=
  digits.take 8 ++ '-' :: (digits.drop 8).take 4 ++ '-' :: (digits.drop 12).take 4 ++
    '-' :: (digits.drop 16).take 4 ++ '-' :: digits.drop 20

def unhyphenate? (characters : List Char) : Option (List Char) :=
  let digits := characters.take 8 ++ (characters.drop 9).take 4 ++ (characters.drop 14).take 4 ++
    (characters.drop 19).take 4 ++ characters.drop 24
  if characters = hyphenate digits then some digits else none

/-! ## Writing and reading -/

def characters (uuid : Uuid) : List Char := hyphenate (Text.Hex.write 32 uuid.value)

def text (uuid : Uuid) : String := String.ofList uuid.characters

def ofDigits? (digits : List Char) : Option Uuid :=
  if digits.length = 32 then
    (Text.Hex.read? digits).bind fun value =>
      if small : value < limit then some ⟨value, small⟩ else none
  else
    none

def braced? : List Char → Option (List Char)
  | '\x7b' :: rest => if rest.getLast? = some '\x7d' then some rest.dropLast else none
  | _ => none

def named? (characters : List Char) : Option (List Char) :=
  if (characters.take 9).map Char.toLower = "urn:uuid:".toList then some (characters.drop 9)
  else none

def digits? (characters : List Char) : Option (List Char) :=
  match characters.length with
  | 32 => some characters
  | 36 => unhyphenate? characters
  | 38 => (braced? characters).bind unhyphenate?
  | 45 => (named? characters).bind unhyphenate?
  | _ => none

def parse? (text : String) : Option Uuid :=
  (digits? text.toList).bind ofDigits?

example : (ofNat 0x1000A).characters = "00000000-0000-0000-0000-00000001000a".toList := by
  decide +kernel

example : parse? "URN:uuid:00000000-0000-0000-0000-00000001000A" = some (ofNat 0x1000A) := by
  decide +kernel

example : parse? "0000000-00000-0000-0000-00000001000a" = none := by decide +kernel

/-! ## What is written reads back -/

theorem exists_groups {digits : List Char} (size : digits.length = 32) :
    ∃ first second third fourth last : List Char,
      digits = first ++ second ++ third ++ fourth ++ last ∧ first.length = 8 ∧
        second.length = 4 ∧ third.length = 4 ∧ fourth.length = 4 ∧ last.length = 12 := by
  refine ⟨digits.take 8, (digits.drop 8).take 4, (digits.drop 12).take 4,
    (digits.drop 16).take 4, digits.drop 20, ?_, ?_⟩
  · have cut (start width : Nat) : (digits.drop start).take width ++ digits.drop (start + width) =
        digits.drop start := by
      rw [← List.drop_drop, List.take_append_drop]
    rw [List.append_assoc _ _ (digits.drop 20), cut 16 4, List.append_assoc, cut 12 4,
      List.append_assoc, cut 8 4, List.take_append_drop]
  · simp [size]

theorem hyphenate_groups {first second third fourth last : List Char} (firstSize : first.length = 8)
    (secondSize : second.length = 4) (thirdSize : third.length = 4)
    (fourthSize : fourth.length = 4) :
    hyphenate (first ++ second ++ third ++ fourth ++ last) =
      first ++ '-' :: second ++ '-' :: third ++ '-' :: fourth ++ '-' :: last := by
  simp [hyphenate, List.drop_append, List.drop_of_length_le, firstSize,
    secondSize, thirdSize, fourthSize]

theorem unhyphenate?_hyphenate {digits : List Char} (size : digits.length = 32) :
    unhyphenate? (hyphenate digits) = some digits := by
  obtain ⟨first, second, third, fourth, last, rfl, firstSize, secondSize, thirdSize, fourthSize,
    lastSize⟩ := exists_groups size
  rw [hyphenate_groups firstSize secondSize thirdSize fourthSize]
  simp [unhyphenate?, hyphenate, List.drop_append, List.drop_of_length_le,
    firstSize, secondSize, thirdSize, fourthSize]

theorem length_hyphenate {digits : List Char} (size : digits.length = 32) :
    (hyphenate digits).length = 36 := by
  simp [hyphenate, size]

theorem parse?_text (uuid : Uuid) : parse? uuid.text = some uuid := by
  have size := Text.Hex.length_write 32 uuid.value
  have power : Nat.pow 16 32 = limit := by decide
  have reads := Text.Hex.read?_write 32 uuid.value (power ▸ uuid.value_lt)
  rw [parse?, text, String.toList_ofList, characters, digits?, length_hyphenate size]
  simp [unhyphenate?_hyphenate size, ofDigits?, size, reads, uuid.value_lt]

end Uuid

end ViewerLogin
