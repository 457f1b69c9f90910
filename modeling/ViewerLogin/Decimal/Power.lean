/-!
# Powers of two and of ten

Binary and decimal numbers are brought to one scale by powers of their bases.
-/

namespace ViewerLogin.Decimal

def twoTo (exponent : Nat) : Nat := Nat.pow 2 exponent

def tenTo (exponent : Nat) : Nat := Nat.pow 10 exponent

example : twoTo 10 = 1024 ∧ tenTo 3 = 1000 := by decide

end ViewerLogin.Decimal
