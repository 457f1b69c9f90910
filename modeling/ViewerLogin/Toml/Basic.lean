import ViewerLogin.IpAddress
import ViewerLogin.Response.Maturity
import ViewerLogin.Uuid
import ViewerLogin.Wire.Word

/-!
# TOML values

The values that a configuration is made of, and what can be read from them. Nothing is read
from one kind of value for another: a numeral in quotation marks is a text.
-/

namespace ViewerLogin

/-- No setting is a real number or a date-time, so of these only the presence is kept. -/
inductive Toml where
  | text (value : String)
  | integer (value : Int)
  | real
  | truth (value : Bool)
  | dateTime
  | list (items : List Toml)
  | table (members : List (String × Toml))
  deriving Repr

namespace Toml

/-! ## Equality -/

mutual

def decideEqual : (left right : Toml) → Decidable (left = right)
  | .text left, .text right => decidable_of_iff (left = right) (by simp)
  | .integer left, .integer right => decidable_of_iff (left = right) (by simp)
  | .real, .real => isTrue rfl
  | .truth left, .truth right => decidable_of_iff (left = right) (by simp)
  | .dateTime, .dateTime => isTrue rfl
  | .list left, .list right =>
      match decideEqualItems left right with
      | isTrue equal => isTrue (by rw [equal])
      | isFalse different => isFalse (by simpa using different)
  | .table left, .table right =>
      match decideEqualMembers left right with
      | isTrue equal => isTrue (by rw [equal])
      | isFalse different => isFalse (by simpa using different)
  | .text _, .integer _ | .text _, .real | .text _, .truth _ | .text _, .dateTime
  | .text _, .list _ | .text _, .table _
  | .integer _, .text _ | .integer _, .real | .integer _, .truth _ | .integer _, .dateTime
  | .integer _, .list _ | .integer _, .table _
  | .real, .text _ | .real, .integer _ | .real, .truth _ | .real, .dateTime | .real, .list _
  | .real, .table _
  | .truth _, .text _ | .truth _, .integer _ | .truth _, .real | .truth _, .dateTime
  | .truth _, .list _ | .truth _, .table _
  | .dateTime, .text _ | .dateTime, .integer _ | .dateTime, .real | .dateTime, .truth _
  | .dateTime, .list _ | .dateTime, .table _
  | .list _, .text _ | .list _, .integer _ | .list _, .real | .list _, .truth _
  | .list _, .dateTime | .list _, .table _
  | .table _, .text _ | .table _, .integer _ | .table _, .real | .table _, .truth _
  | .table _, .dateTime | .table _, .list _ => isFalse nofun

def decideEqualItems : (left right : List Toml) → Decidable (left = right)
  | [], [] => isTrue rfl
  | [], _ :: _ => isFalse nofun
  | _ :: _, [] => isFalse nofun
  | leftHead :: leftTail, rightHead :: rightTail =>
      match decideEqual leftHead rightHead, decideEqualItems leftTail rightTail with
      | isTrue heads, isTrue tails => isTrue (by rw [heads, tails])
      | isFalse heads, _ => isFalse fun equal => heads (List.cons.inj equal).1
      | _, isFalse tails => isFalse fun equal => tails (List.cons.inj equal).2

def decideEqualMembers : (left right : List (String × Toml)) → Decidable (left = right)
  | [], [] => isTrue rfl
  | [], _ :: _ => isFalse nofun
  | _ :: _, [] => isFalse nofun
  | (leftKey, leftHead) :: leftTail, (rightKey, rightHead) :: rightTail =>
      match decEq leftKey rightKey, decideEqual leftHead rightHead,
        decideEqualMembers leftTail rightTail with
      | isTrue keys, isTrue heads, isTrue tails => isTrue (by rw [keys, heads, tails])
      | isFalse keys, _, _ =>
          isFalse fun equal => keys (Prod.mk.inj (List.cons.inj equal).1).1
      | _, isFalse heads, _ =>
          isFalse fun equal => heads (Prod.mk.inj (List.cons.inj equal).1).2
      | _, _, isFalse tails => isFalse fun equal => tails (List.cons.inj equal).2

end

instance : DecidableEq Toml := decideEqual

/-! ## Single values -/

def asText? : Toml → Option String
  | .text value => some value
  | _ => none

def asTruth? : Toml → Option Bool
  | .truth value => some value
  | _ => none

def asWord? {α : Type} [Wire.Word α] : Toml → Option α
  | .integer value => Wire.Word.ofInt? value
  | _ => none

def asAddress? (value : Toml) : Option IpAddress := value.asText?.bind IpAddress.parse?

def asOctet? : Toml → Option Nat
  | .integer value => if 0 ≤ value ∧ value < 256 then some value.toNat else none
  | _ => none

/-- The identifier of sixteen octets; any further values are not looked at. -/
def uuidOfOctets? (items : List Toml) : Option Uuid :=
  if 16 ≤ items.length then
    ((items.take 16).mapM asOctet?).map fun octets =>
      .ofNat (octets.foldl (fun value octet => value * 256 + octet) 0)
  else
    none

def asUuid? : Toml → Option Uuid
  | .text value => Uuid.parse? value
  | .list items => uuidOfOctets? items
  | _ => none

def isEmpty : Toml → Bool
  | .list items => items.isEmpty
  | .table members => members.isEmpty
  | _ => false

/-- A tier is named by its tag, or by a table that holds nothing but an empty value at it. -/
def asMaturity? : Toml → Option Maturity
  | .text tag => Maturity.ofTag? tag
  | .table [(tag, value)] => if value.isEmpty then Maturity.ofTag? tag else none
  | _ => none

/-! ## Lists and records -/

def asListOf? {α : Type} (read? : Toml → Option α) : Toml → Option (List α)
  | .list items => items.mapM read?
  | _ => none

/-- The members of a record with these keys. A record is a table, or a list of its values in
the order of the keys; a date-time counts as a record without members. -/
def asRecord? (keys : List String) : Toml → Option (List (String × Toml))
  | .table members => some members
  | .list items => some (keys.zip items)
  | .dateTime => some []
  | _ => none

example : asRecord? ["id", "name"] (.list [.integer 1]) = some [("id", .integer 1)] := rfl

def required? {α : Type} (members : List (String × Toml)) (key : String)
    (read? : Toml → Option α) : Option α :=
  (members.lookup key).bind read?

def optional? {α : Type} (members : List (String × Toml)) (key : String) (standard : α)
    (read? : Toml → Option α) : Option α :=
  match members.lookup key with
  | none => some standard
  | some value => read? value

end Toml

end ViewerLogin
