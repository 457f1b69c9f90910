/-!
# Integers of fixed width

Ports, sizes, codes and versions are machine words. A word is read from an integer only when
the integer fits.
-/

namespace ViewerLogin.Wire

/-- A type of machine words of at most 64 bits: the integers from `low` to below `limit`. -/
class Word (α : Type) where
  low : Int
  limit : Int
  least_le_low : -0x8000000000000000 ≤ low
  limit_le_greatest : limit ≤ 0x10000000000000000
  toInt : α → Int
  ofInt : Int → α
  toInt_ofInt : ∀ value, low ≤ value → value < limit → toInt (ofInt value) = value
  ofInt_toInt : ∀ word, ofInt (toInt word) = word
  low_le_toInt : ∀ word, low ≤ toInt word
  toInt_lt_limit : ∀ word, toInt word < limit

namespace Word

def ofInt? {α : Type} [Word α] (value : Int) : Option α :=
  if low α ≤ value ∧ value < limit α then some (ofInt value) else none

instance : Word UInt16 where
  low := 0
  limit := 0x10000
  least_le_low := by decide
  limit_le_greatest := by decide
  toInt word := word.toNat
  ofInt value := UInt16.ofNat value.toNat
  toInt_ofInt value := by
    intro lower upper
    simp only [UInt16.toNat_ofNat']
    omega
  ofInt_toInt word := by simp
  low_le_toInt word := Int.natCast_nonneg _
  toInt_lt_limit word := by have := word.toNat_lt; omega

instance : Word UInt32 where
  low := 0
  limit := 0x100000000
  least_le_low := by decide
  limit_le_greatest := by decide
  toInt word := word.toNat
  ofInt value := UInt32.ofNat value.toNat
  toInt_ofInt value := by
    intro lower upper
    simp only [UInt32.toNat_ofNat']
    omega
  ofInt_toInt word := by simp
  low_le_toInt word := Int.natCast_nonneg _
  toInt_lt_limit word := by have := word.toNat_lt; omega

instance : Word UInt64 where
  low := 0
  limit := 0x10000000000000000
  least_le_low := by decide
  limit_le_greatest := by decide
  toInt word := word.toNat
  ofInt value := UInt64.ofNat value.toNat
  toInt_ofInt value := by
    intro lower upper
    simp only [UInt64.toNat_ofNat']
    omega
  ofInt_toInt word := by simp
  low_le_toInt word := Int.natCast_nonneg _
  toInt_lt_limit word := by have := word.toNat_lt; omega

instance : Word Int32 where
  low := -0x80000000
  limit := 0x80000000
  least_le_low := by decide
  limit_le_greatest := by decide
  toInt word := word.toInt
  ofInt value := Int32.ofInt value
  toInt_ofInt value := by
    intro lower upper
    exact Int32.toInt_ofInt_of_le (by omega) (by omega)
  ofInt_toInt word := by simp
  low_le_toInt word := Int32.le_toInt word
  toInt_lt_limit word := Int32.toInt_lt word

instance : Word Int64 where
  low := -0x8000000000000000
  limit := 0x8000000000000000
  least_le_low := by decide
  limit_le_greatest := by decide
  toInt word := word.toInt
  ofInt value := Int64.ofInt value
  toInt_ofInt value := by
    intro lower upper
    exact Int64.toInt_ofInt_of_le (by omega) (by omega)
  ofInt_toInt word := by simp
  low_le_toInt word := Int64.le_toInt word
  toInt_lt_limit word := Int64.toInt_lt word

theorem ofInt?_eq_some_iff {α : Type} [Word α] (value : Int) (word : α) :
    ofInt? value = some word ↔ toInt word = value := by
  unfold ofInt?
  constructor
  · intro equal
    split at equal
    · next fits =>
        injection equal with equal
        rw [← equal]
        exact toInt_ofInt value fits.1 fits.2
    · contradiction
  · intro equal
    subst equal
    rw [if_pos ⟨low_le_toInt word, toInt_lt_limit word⟩, ofInt_toInt]

theorem ofInt?_toInt {α : Type} [Word α] (word : α) : ofInt? (toInt word) = some word :=
  (ofInt?_eq_some_iff _ word).mpr rfl

end Word

end ViewerLogin.Wire
