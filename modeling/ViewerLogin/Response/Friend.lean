import ViewerLogin.Wire.Codec

/-!
# Friends

Each side of a friendship grants the other some rights. They travel as the bits of an integer;
bits without a meaning are dropped.
-/

namespace ViewerLogin

inductive Right where
  | seeOnline
  | seeOnMap
  | modifyObjects
  deriving DecidableEq, Repr

namespace Right

def all : List Right := [.seeOnline, .seeOnMap, .modifyObjects]

def bit : Right → Nat
  | .seeOnline => 0
  | .seeOnMap => 1
  | .modifyObjects => 2

end Right

structure Rights where
  seeOnline : Bool
  seeOnMap : Bool
  modifyObjects : Bool
  deriving DecidableEq, Repr

namespace Rights

def none : Rights := ⟨false, false, false⟩

def every : Rights := ⟨true, true, true⟩

def has (rights : Rights) : Right → Bool
  | .seeOnline => rights.seeOnline
  | .seeOnMap => rights.seeOnMap
  | .modifyObjects => rights.modifyObjects

def ofPredicate (granted : Right → Bool) : Rights :=
  ⟨granted .seeOnline, granted .seeOnMap, granted .modifyObjects⟩

def union (left right : Rights) : Rights :=
  ofPredicate fun each => left.has each || right.has each

def common (left right : Rights) : Rights :=
  ofPredicate fun each => left.has each && right.has each

/-! ## Bits -/

def bits (rights : Rights) : Nat :=
  rights.seeOnline.toNat + 2 * rights.seeOnMap.toNat + 4 * rights.modifyObjects.toNat

def ofBits (value : Nat) : Rights :=
  ofPredicate fun each => value.testBit each.bit

/-- Integers outside 32 bits grant nothing. -/
def ofWire (value : Int) : Rights :=
  if 0 ≤ value ∧ value < 0x100000000 then ofBits value.toNat else none

example : ofWire 13 = ⟨true, false, true⟩ ∧ ofWire (-1) = none := by decide

end Rights

/-! ## Entries of the friends list -/

structure Buddy where
  id : Uuid
  given : Rights
  has : Rights
  deriving DecidableEq, Repr

namespace Buddy

open Wire (Codec Record)

/-- Rights that are not given at all are none. -/
def rights : Codec Rights where
  write rights := .ofNat rights.bits
  read key slot :=
    ((Codec.word : Codec (Option Int64)).read key slot).map fun value =>
      match value with
      | none => .none
      | some word => .ofWire word.toInt

def record : Record Buddy where
  write buddy := [
    ("buddy_id", Codec.uuid.required.write buddy.id),
    ("buddy_rights_given", rights.write buddy.given),
    ("buddy_rights_has", rights.write buddy.has)]
  read members := do
    return {
      id := ← Codec.uuid.required.readAt members "buddy_id"
      given := ← rights.readAt members "buddy_rights_given"
      has := ← rights.readAt members "buddy_rights_has" }

end Buddy

end ViewerLogin
