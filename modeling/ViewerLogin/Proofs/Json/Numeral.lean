import ViewerLogin.Proofs.Json.NumeralSpelling

/-!
# Integers as numerals

The digits of an integer spell one numeral, which is scanned as long as nothing follows that
could belong to it, and that numeral has the integer as its number.
-/

namespace ViewerLogin

open Text (Symbol)

namespace Decimal

theorem natural_head_ne_zero {value : Nat} (positive : 0 < value) {first : Char}
    {rest : List Char} (equal : natural value = first :: rest) : first ≠ '0' := by
  induction value using Nat.strongRecOn generalizing rest with
  | ind value induction =>
      by_cases single : value < 10
      · rw [natural, Nat.toDigits_of_lt_base single] at equal
        injection equal with sameFirst
        rw [← sameFirst]
        intro isZero
        exact absurd (Nat.digitChar_eq_zero.mp isZero) (Nat.ne_of_gt positive)
      · rw [natural, Nat.toDigits_of_base_le (by decide) (Nat.not_lt.mp single)] at equal
        cases front : Nat.toDigits 10 (value / 10) with
        | nil => exact absurd front Nat.toDigits_ne_nil
        | cons head others =>
            rw [front] at equal
            injection equal with sameFirst
            subst sameFirst
            exact induction (value / 10) (by omega) (by omega) front

end Decimal

namespace Numeral

def Stops (rest : List Symbol) : Prop :=
  ∀ character, rest.head? = some (some character) →
    character.isDigit = false ∧ character ≠ '.' ∧ character ≠ 'e' ∧ character ≠ 'E'

def ofInt : Int → Numeral
  | .ofNat value => ⟨false, Decimal.natural value, [], none⟩
  | .negSucc below => ⟨true, Decimal.natural (below + 1), [], none⟩

/-! ## Scanning -/

theorem Stops.ends {rest : List Symbol} (stops : Stops rest) (numeral : Numeral) :
    numeral.Ends rest where
  digits := fun character head => (stops character head).1
  fraction := fun _ _ head => (stops '.' head).2.1 rfl
  exponent := fun _ character head => (stops character head).2.2

theorem whole_natural (value : Nat) : Whole (Decimal.natural value) where
  nonempty := Nat.toDigits_ne_nil
  digits := fun _ member => Nat.isDigit_of_mem_toDigits (by decide) (by decide) member
  alone := by
    intro rest equal
    by_cases positive : 0 < value
    · exact absurd rfl (Decimal.natural_head_ne_zero positive equal)
    · rw [Nat.eq_zero_of_not_pos positive] at equal
      exact (List.cons.inj equal).2.symm

theorem unsignedSpelling_natural (negative : Bool) (value : Nat) :
    UnsignedSpelling negative (Decimal.natural value)
      ⟨negative, Decimal.natural value, [], none⟩ := by
  have spelled : UnsignedSpelling negative (Decimal.natural value ++ ([] ++ [])) _ :=
    .parts (whole_natural value) .none .none
  rw [List.append_nil, List.append_nil] at spelled
  exact spelled

theorem spelling_integer (value : Int) : Spelling (Decimal.integer value) (ofInt value) := by
  cases value with
  | ofNat value => exact .plain (unsignedSpelling_natural false value)
  | negSucc below => exact .minus (unsignedSpelling_natural true (below + 1))

theorem take?_integer (value : Int) {rest : List Symbol} (stops : Stops rest) :
    take? ((Decimal.integer value).map some ++ rest) = some (ofInt value, rest) :=
  take?_eq_some_iff.mpr ⟨_, rfl, spelling_integer value, stops.ends _⟩

/-! ## Numbers -/

def ofNumber (number : Number) : Numeral :=
  ((take? (number.characters.map some)).map Prod.fst).getD ⟨false, [], [], none⟩

theorem ofNumber_integer (value : Int) : ofNumber (.integer value) = ofInt value := by
  have taken := @take?_integer value [] nofun
  rw [List.append_nil] at taken
  rw [ofNumber, Number.characters, taken]
  rfl

theorem number?_ofInt {value : Int} (above : Number.leastInteger ≤ value)
    (below : value < Number.integerLimit) : (ofInt value).number? = some (.integer value) := by
  have reads : (ofInt value).integer? = some value := by
    cases value with
    | ofNat value =>
        simp only [ofInt, integer?, Decimal.natural, Nat.ofDigitChars_ten_toDigits]
        rw [if_neg (by simp), if_neg Bool.false_ne_true]
        exact if_pos below
    | negSucc bound =>
        have negated : Int.negSucc bound = -((bound + 1 : Nat) : Int) := rfl
        rw [negated] at above
        simp only [ofInt, integer?, Decimal.natural, Nat.ofDigitChars_ten_toDigits]
        rw [if_neg (by simp), if_pos trivial, if_pos ⟨Nat.succ_ne_zero bound, above⟩]
        rfl
  rw [number?, reads]

end Numeral

end ViewerLogin
