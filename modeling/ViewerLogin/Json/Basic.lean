import ViewerLogin.Decimal.Binary64

/-!
# JSON values

The values that calls and replies are made of. The members of a map stand in the order of
their keys, and a key that is given again takes the new value.
-/

namespace ViewerLogin

/-- A number is an integer that fits 64 bits, signed or unsigned, or a binary64 value. -/
inductive Number where
  | integer (value : Int)
  | real (value : Decimal.Binary64)
  deriving DecidableEq, Repr

namespace Number

def leastInteger : Int := -0x8000000000000000

def integerLimit : Int := 0x10000000000000000

end Number

inductive Json where
  | null
  | truth (value : Bool)
  | number (value : Number)
  | text (value : String)
  | list (items : List Json)
  | map (members : List (String × Json))
  deriving Repr

namespace Json

/-! ## Equality -/

mutual

def decideEqual : (left right : Json) → Decidable (left = right)
  | .null, .null => isTrue rfl
  | .truth left, .truth right => decidable_of_iff (left = right) (by simp)
  | .number left, .number right => decidable_of_iff (left = right) (by simp)
  | .text left, .text right => decidable_of_iff (left = right) (by simp)
  | .list left, .list right =>
      match decideEqualItems left right with
      | isTrue equal => isTrue (by rw [equal])
      | isFalse different => isFalse (by simpa using different)
  | .map left, .map right =>
      match decideEqualMembers left right with
      | isTrue equal => isTrue (by rw [equal])
      | isFalse different => isFalse (by simpa using different)
  | .null, .truth _ | .null, .number _ | .null, .text _ | .null, .list _ | .null, .map _
  | .truth _, .null | .truth _, .number _ | .truth _, .text _ | .truth _, .list _
  | .truth _, .map _
  | .number _, .null | .number _, .truth _ | .number _, .text _ | .number _, .list _
  | .number _, .map _
  | .text _, .null | .text _, .truth _ | .text _, .number _ | .text _, .list _
  | .text _, .map _
  | .list _, .null | .list _, .truth _ | .list _, .number _ | .list _, .text _
  | .list _, .map _
  | .map _, .null | .map _, .truth _ | .map _, .number _ | .map _, .text _
  | .map _, .list _ => isFalse nofun

def decideEqualItems : (left right : List Json) → Decidable (left = right)
  | [], [] => isTrue rfl
  | [], _ :: _ => isFalse nofun
  | _ :: _, [] => isFalse nofun
  | leftHead :: leftTail, rightHead :: rightTail =>
      match decideEqual leftHead rightHead, decideEqualItems leftTail rightTail with
      | isTrue heads, isTrue tails => isTrue (by rw [heads, tails])
      | isFalse heads, _ => isFalse fun equal => heads (List.cons.inj equal).1
      | _, isFalse tails => isFalse fun equal => tails (List.cons.inj equal).2

def decideEqualMembers : (left right : List (String × Json)) → Decidable (left = right)
  | [], [] => isTrue rfl
  | [], _ :: _ => isFalse nofun
  | _ :: _, [] => isFalse nofun
  | (leftKey, leftHead) :: leftTail, (rightKey, rightHead) :: rightTail =>
      match decEq leftKey rightKey, decideEqual leftHead rightHead,
        decideEqualMembers leftTail rightTail with
      | isTrue keys, isTrue heads, isTrue tails => isTrue (by rw [keys, heads, tails])
      | isFalse keys, _, _ =>
          isFalse fun equal => keys (Prod.mk.inj (List.cons.inj equal).1).1
      | _, isFalse heads, _ =>
          isFalse fun equal => heads (Prod.mk.inj (List.cons.inj equal).1).2
      | _, _, isFalse tails => isFalse fun equal => tails (List.cons.inj equal).2

end

instance : DecidableEq Json := decideEqual

/-! ## Members of maps -/

abbrev Members := List (String × Json)

namespace Members

def get? (members : Members) (key : String) : Option Json :=
  members.lookup key

def insert (members : Members) (key : String) (value : Json) : Members :=
  match members with
  | [] => [(key, value)]
  | (firstKey, firstValue) :: rest =>
      if key < firstKey then (key, value) :: (firstKey, firstValue) :: rest
      else if key = firstKey then (key, value) :: rest
      else (firstKey, firstValue) :: insert rest key value

/-- The members given by a list of pairs, of which the last one counts for its key. -/
def ofList (pairs : List (String × Json)) : Members :=
  pairs.foldl (fun members (key, value) => members.insert key value) []

theorem get?_nil (key : String) : get? [] key = none := rfl

theorem get?_cons (members : Members) (firstKey key : String) (value : Json) :
    get? ((firstKey, value) :: members) key =
      if key = firstKey then some value else get? members key := by
  by_cases equal : key = firstKey
  · simp [get?, equal]
  · have different : (key == firstKey) = false := by simpa using equal
    simp [get?, List.lookup_cons, different, equal]

theorem get?_insert (members : Members) (key other : String) (value : Json) :
    (insert members key value).get? other =
      if other = key then some value else members.get? other := by
  induction members with
  | nil => exact get?_cons [] key other value
  | cons first rest induction =>
      rcases first with ⟨firstKey, firstValue⟩
      unfold insert
      split
      · exact get?_cons _ key other value
      · split
        · next equal =>
            subst equal
            rw [get?_cons, get?_cons]
            split <;> rfl
        · next different =>
            rw [get?_cons, get?_cons, induction]
            by_cases atFirst : other = firstKey
            · have notKey : other ≠ key := fun equal => different (equal ▸ atFirst)
              simp [atFirst, atFirst ▸ notKey]
            · simp [atFirst]

end Members

def object (pairs : List (String × Json)) : Json := .map (Members.ofList pairs)

example : object [("b", .null), ("a", .null), ("b", .truth true)] =
    .map [("a", .null), ("b", .truth true)] := by decide

/-! ## Integers -/

def ofInt (value : Int) : Json := .number (.integer value)

def ofNat (value : Nat) : Json := .number (.integer value)

end Json

end ViewerLogin
