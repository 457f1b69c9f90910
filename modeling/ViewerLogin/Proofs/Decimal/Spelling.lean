import ViewerLogin.Decimal.Integer
import ViewerLogin.Proofs.Text.Trim

/-!
# Spellings of integers

An integer may be spelled with a sign, with leading zeros and between blanks. These are all the
texts that are read as integers, and each of them is read as the integer it spells.
-/

namespace ViewerLogin.Decimal

open Text (isBlank trimCharacters)

/-! ## Leading zeros -/

theorem natural_digit {character : Char} (digit : character.isDigit = true) :
    natural (character.toNat - '0'.toNat) = [character] := by
  have bounds := Char.isDigit_iff_toNat.mp digit
  have zero : '0'.toNat = 48 := rfl
  have nine : '9'.toNat = 57 := rfl
  have small : character.toNat - '0'.toNat < 10 := by omega
  have same : (character.toNat - '0'.toNat).digitChar = character := by
    apply Char.toNat_inj.mp
    rw [Nat.toNat_digitChar_of_lt_ten small]
    omega
  rw [natural, Nat.toDigits_of_lt_base small, same]

theorem natural_append {digits : List Char} (allDigits : ∀ each ∈ digits, each.isDigit = true)
    {value : Nat} (positive : 0 < value) :
    natural value ++ digits = natural (Nat.ofDigitChars 10 digits value) := by
  -- The digits are taken in one by one, and the number in front of them grows.
  induction digits generalizing value with
  | nil => rw [List.append_nil, Nat.ofDigitChars_nil]
  | cons first rest induction =>
      have digit := allDigits first List.mem_cons_self
      have bounds := Char.isDigit_iff_toNat.mp digit
      have small : first.toNat - '0'.toNat < 10 := by
        have zero : '0'.toNat = 48 := rfl
        have nine : '9'.toNat = 57 := rfl
        omega
      have grown : natural value ++ [first] =
          natural (10 * value + (first.toNat - '0'.toNat)) := by
        rw [← natural_digit digit]
        exact Nat.toDigits_append_toDigits (by decide) positive small
      calc
        natural value ++ first :: rest = natural value ++ [first] ++ rest := by simp
        _ = natural (10 * value + (first.toNat - '0'.toNat)) ++ rest := by rw [grown]
        _ = natural (Nat.ofDigitChars 10 rest (10 * value + (first.toNat - '0'.toNat))) :=
          induction (fun each member => allDigits each (List.mem_cons_of_mem _ member))
            (by omega)
        _ = natural (Nat.ofDigitChars 10 (first :: rest) value) := by
          rw [Nat.ofDigitChars_cons]

/-- Digits are a number in plain decimal with zeros in front. -/
theorem exists_zeros {digits : List Char} (nonempty : digits ≠ [])
    (allDigits : ∀ each ∈ digits, each.isDigit = true) :
    ∃ zeros, digits = List.replicate zeros '0' ++ natural (Nat.ofDigitChars 10 digits 0) := by
  induction digits with
  | nil => exact absurd rfl nonempty
  | cons first rest induction =>
      have restDigits : ∀ each ∈ rest, each.isDigit = true :=
        fun each member => allDigits each (List.mem_cons_of_mem _ member)
      have digit := allDigits first List.mem_cons_self
      rw [Nat.ofDigitChars_cons, Nat.mul_zero, Nat.zero_add]
      by_cases atZero : first = '0'
      · subst atZero
        rw [Nat.sub_self]
        by_cases last : rest = []
        · subst last
          exact ⟨0, rfl⟩
        · rcases induction last restDigits with ⟨zeros, same⟩
          exact ⟨zeros + 1, congrArg (List.cons '0') same⟩
      · have positive : 0 < first.toNat - '0'.toNat := by
          have bounds := Char.isDigit_iff_toNat.mp digit
          have different : first.toNat ≠ '0'.toNat := fun same => atZero (Char.toNat_inj.mp same)
          omega
        refine ⟨0, ?_⟩
        rw [← natural_append restDigits positive, natural_digit digit]
        rfl

theorem readNatural?_eq_some_iff {characters : List Char} {value : Nat} :
    readNatural? characters = some value ↔
      ∃ zeros, characters = List.replicate zeros '0' ++ natural value := by
  rw [readNatural?]
  constructor
  · intro read
    split at read
    · next digits =>
        rw [← Option.some.inj read]
        exact exists_zeros digits.1 (List.all_eq_true.mp digits.2)
    · contradiction
  · rintro ⟨zeros, rfl⟩
    have nonempty : List.replicate zeros '0' ++ natural value ≠ [] :=
      List.append_ne_nil_of_right_ne_nil _ Nat.toDigits_ne_nil
    have digits : (List.replicate zeros '0' ++ natural value).all Char.isDigit = true := by
      rw [List.all_append, Bool.and_eq_true]
      constructor
      · rw [List.all_replicate]
        split <;> rfl
      · refine List.all_eq_true.mpr fun each member => ?_
        exact Nat.isDigit_of_mem_toDigits (by decide) (by decide) member
    rw [if_pos ⟨nonempty, digits⟩, Nat.ofDigitChars_append, Nat.ofDigitChars_replicate_zero,
      Nat.mul_zero, natural, Nat.ofDigitChars_ten_toDigits]

theorem isDigit_of_readNatural? {characters : List Char} {value : Nat}
    (read : readNatural? characters = some value) {character : Char}
    (member : character ∈ characters) : character.isDigit = true := by
  rw [readNatural?] at read
  split at read
  · next digits => exact List.all_eq_true.mp digits.2 character member
  · contradiction

/-! ## Signs -/

inductive Sign where
  | absent
  | plus
  | minus
  deriving DecidableEq, Repr

namespace Sign

def characters : Sign → List Char
  | .absent => []
  | .plus => ['+']
  | .minus => ['-']

def apply : Sign → Nat → Int
  | .absent, value | .plus, value => value
  | .minus, value => -(value : Int)

end Sign

def spelling (sign : Sign) (zeros value : Nat) : List Char :=
  sign.characters ++ (List.replicate zeros '0' ++ natural value)

example : spelling .plus 2 7 = "+007".toList ∧ spelling .minus 0 0 = "-0".toList := by decide

theorem exists_sign (characters : List Char) :
    ∃ sign digits, characters = Sign.characters sign ++ digits ∧
      readInteger? characters = (readNatural? digits).map sign.apply := by
  unfold readInteger?
  split
  · next digits => exact ⟨.plus, digits, rfl, rfl⟩
  · next digits =>
      refine ⟨.minus, digits, rfl, ?_⟩
      cases readNatural? digits <;> rfl
  · exact ⟨.absent, characters, rfl, rfl⟩

theorem readInteger?_of_digit {first : Char} (digit : first.isDigit = true) (rest : List Char) :
    readInteger? (first :: rest) = (readNatural? (first :: rest)).map Int.ofNat := by
  unfold readInteger?
  split
  · next same =>
      rw [(List.cons.inj same).1] at digit
      exact absurd digit (by decide)
  · next same =>
      rw [(List.cons.inj same).1] at digit
      exact absurd digit (by decide)
  · rfl

theorem readInteger?_spelling (sign : Sign) (zeros value : Nat) :
    readInteger? (spelling sign zeros value) = some (sign.apply value) := by
  have read : readNatural? (List.replicate zeros '0' ++ natural value) = some value :=
    readNatural?_eq_some_iff.mpr ⟨zeros, rfl⟩
  cases sign with
  | plus =>
      rw [spelling, Sign.characters, List.singleton_append, readInteger?, read]
      rfl
  | minus =>
      rw [spelling, Sign.characters, List.singleton_append, readInteger?, read]
      rfl
  | absent =>
      rw [spelling, Sign.characters, List.nil_append]
      cases begins : List.replicate zeros '0' ++ natural value with
      | nil => exact absurd (List.append_eq_nil_iff.mp begins).2 Nat.toDigits_ne_nil
      | cons first rest =>
          rw [begins] at read
          rw [readInteger?_of_digit (isDigit_of_readNatural? read List.mem_cons_self), read]
          rfl

theorem readInteger?_eq_some_iff {characters : List Char} {number : Int} :
    readInteger? characters = some number ↔
      ∃ sign zeros value, characters = spelling sign zeros value ∧ number = sign.apply value := by
  constructor
  · intro read
    rcases exists_sign characters with ⟨sign, digits, rfl, same⟩
    rw [same] at read
    rcases Option.map_eq_some_iff.mp read with ⟨value, digitsRead, applied⟩
    rcases readNatural?_eq_some_iff.mp digitsRead with ⟨zeros, rfl⟩
    exact ⟨sign, zeros, value, rfl, applied.symm⟩
  · rintro ⟨sign, zeros, value, rfl, rfl⟩
    exact readInteger?_spelling sign zeros value

/-! ## Blanks around a spelling -/

theorem isBlank_of_mem_spelling {sign : Sign} {zeros value : Nat} {character : Char}
    (member : character ∈ spelling sign zeros value) : isBlank character = false := by
  apply isBlank_of_isNumeric
  rcases List.mem_append.mp member with inSign | inDigits
  · cases sign with
    | absent => exact absurd inSign List.not_mem_nil
    | plus => rw [List.mem_singleton.mp inSign, isNumeric]; decide
    | minus => rw [List.mem_singleton.mp inSign, isNumeric]; decide
  · rcases List.mem_append.mp inDigits with inZeros | inNatural
    · rw [List.eq_of_mem_replicate inZeros]
      exact isNumeric_of_isDigit rfl
    · exact isNumeric_of_mem_natural inNatural

def Spells (characters : List Char) (number : Int) : Prop :=
  ∃ before sign zeros value after,
    (∀ each ∈ before, isBlank each = true) ∧ (∀ each ∈ after, isBlank each = true) ∧
    characters = before ++ spelling sign zeros value ++ after ∧ number = sign.apply value

/-- The texts that are read as an integer are those that spell it. -/
theorem readInteger?_trimCharacters_eq_some_iff {characters : List Char} {number : Int} :
    readInteger? (trimCharacters characters) = some number ↔ Spells characters number := by
  rw [readInteger?_eq_some_iff]
  constructor
  · rintro ⟨sign, zeros, value, trimmed, same⟩
    rcases Text.exists_blanks_around characters with ⟨before, after, beforeBlank, afterBlank, whole⟩
    rw [trimmed] at whole
    exact ⟨before, sign, zeros, value, after, beforeBlank, afterBlank, whole, same⟩
  · rintro ⟨before, sign, zeros, value, after, beforeBlank, afterBlank, rfl, same⟩
    refine ⟨sign, zeros, value, ?_, same⟩
    exact Text.trimCharacters_between beforeBlank (fun _ => isBlank_of_mem_spelling) afterBlank

end ViewerLogin.Decimal
