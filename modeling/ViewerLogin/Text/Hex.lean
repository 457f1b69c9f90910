/-!
# Hexadecimal digits

Identifiers, addresses and escapes are written with hexadecimal digits: lower-case ones
when written here, either case when read.
-/

namespace ViewerLogin.Text.Hex

def digits : List Char := "0123456789abcdef".toList

def digit (value : Nat) : Char := digits.getD (value % 16) '0'

def value? (character : Char) : Option Nat :=
  let code := character.toNat
  if 0x30 ≤ code ∧ code ≤ 0x39 then some (code - 0x30)
  else if 0x61 ≤ code ∧ code ≤ 0x66 then some (code - 0x61 + 10)
  else if 0x41 ≤ code ∧ code ≤ 0x46 then some (code - 0x41 + 10)
  else none

example : value? 'b' = some 11 ∧ value? 'B' = some 11 ∧ value? 'g' = none := by decide

theorem value?_digit (value : Nat) (small : value < 16) : value? (digit value) = some value := by
  have all : ∀ value : Fin 16, value? (digit value) = some value.val := by decide
  exact all ⟨value, small⟩

def write : (width value : Nat) → List Char
  | 0, _ => []
  | width + 1, value => write width (value / 16) ++ [digit value]

example : write 4 0xA0F = "0a0f".toList := by decide

def readFrom (value : Nat) : List Char → Option Nat
  | [] => some value
  | character :: rest => (value? character).bind fun next => readFrom (value * 16 + next) rest

def read? (characters : List Char) : Option Nat :=
  readFrom 0 characters

example : read? "0A0f".toList = some 0xA0F ∧ read? "0x1".toList = none := by decide

/-! ## What is written reads back -/

theorem digit_mod (value : Nat) : digit (value % 16) = digit value := by
  simp [digit]

theorem length_write (width value : Nat) : (write width value).length = width := by
  induction width generalizing value with
  | zero => rfl
  | succ width induction => simp [write, induction]

theorem readFrom_append (value : Nat) (front back : List Char) :
    readFrom value (front ++ back) =
      (readFrom value front).bind fun next => readFrom next back := by
  induction front generalizing value with
  | nil => rfl
  | cons first rest induction =>
      rw [List.cons_append, readFrom, readFrom]
      cases value? first with
      | none => rfl
      | some next => exact induction (value * 16 + next)

theorem readFrom_write (width start value : Nat) (small : value < Nat.pow 16 width) :
    readFrom start (write width value) = some (start * Nat.pow 16 width + value) := by
  induction width generalizing value with
  | zero =>
      have isZero : value = 0 := Nat.lt_one_iff.mp small
      simp [write, readFrom, isZero, Nat.pow]
  | succ width induction =>
      have smaller : value / 16 < Nat.pow 16 width :=
        Nat.div_lt_of_lt_mul (by rw [Nat.mul_comm]; exact small)
      have last : value? (digit value) = some (value % 16) := by
        rw [← digit_mod, value?_digit _ (Nat.mod_lt _ (by decide))]
      have power : Nat.pow 16 (width + 1) = Nat.pow 16 width * 16 := rfl
      rw [write, readFrom_append, induction _ smaller, Option.bind_some, readFrom, last,
        Option.bind_some, readFrom, power, Nat.add_mul, Nat.mul_assoc, Nat.add_assoc]
      have whole := Nat.div_add_mod' value 16
      rw [whole]

theorem read?_write (width value : Nat) (small : value < Nat.pow 16 width) :
    read? (write width value) = some value := by
  rw [read?, readFrom_write width 0 value small, Nat.zero_mul, Nat.zero_add]

end ViewerLogin.Text.Hex
