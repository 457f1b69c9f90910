import Mathlib.Logic.Function.Basic
import ViewerLogin.Proofs.Response.Spelling
import ViewerLogin.Proofs.Response.Stable

/-!
# What stands at one key

Each field of a response is read from its own key, so another value at that key changes that
field of what is read and nothing else. If the new value cannot be read while everything else
can, its error is that of the whole map.
-/

namespace ViewerLogin.Response

def set (response : Response) (field : Field) (value : field.Value) : Response :=
  ofFields (Function.update response.value field value)

@[simp] theorem value_set_same (response : Response) (field : Field) (value : field.Value) :
    (response.set field value).value field = value := by
  rw [set, value_ofFields, Function.update_self]

theorem value_set_other (response : Response) {field other : Field} (different : other ≠ field)
    (value : field.Value) : (response.set field value).value other = response.value other := by
  rw [set, value_ofFields, Function.update_of_ne different]

theorem readField_insert_same (members : Json.Members) (field : Field) (value : Json) :
    readField (members.insert field.key value) field =
      field.codec.read field.key (some value) := by
  apply readField_of_get?
  rw [Json.Members.get?_insert, if_pos rfl]

theorem readField_insert_other (members : Json.Members) {field other : Field}
    (different : other ≠ field) (value : Json) :
    readField (members.insert field.key value) other = readField members other := by
  have differentKey : other.key ≠ field.key := fun same => different (Field.eq_of_key_eq same)
  rw [readField, Wire.Codec.readAt, Json.Members.get?_insert, if_neg differentKey]
  rfl

/-- In a map whose other keys can be read, what is read of one key decides about the whole. -/
theorem ofMembers_insert {members : Json.Members} {field : Field} {before : Json}
    {base : Response} (valid : ofMembers (members.insert field.key before) = .ok base)
    (value : Json) :
    ofMembers (members.insert field.key value) =
      (field.codec.read field.key (some value)).map (base.set field) := by
  have others (other : Field) (different : other ≠ field) :
      readField (members.insert field.key value) other = .ok (base.value other) := by
    rw [readField_insert_other members different, ← readField_insert_other members different before]
    exact ofMembers_eq_ok_iff.mp valid other
  have same := readField_insert_same members field value
  cases read : field.codec.read field.key (some value) with
  | error error =>
      exact ofMembers_eq_error (same.trans read) fun other different => ⟨_, others other different⟩
  | ok found =>
      refine ofMembers_eq_ok fun other => ?_
      by_cases atField : other = field
      · subst atField
        rw [same, read, value_set_same]
      · rw [others other atField, value_set_other base atField]

theorem ofMembers_insert_congr (members : Json.Members) (field : Field) {left right : Json}
    (same : field.codec.read field.key (some left) = field.codec.read field.key (some right)) :
    ofMembers (members.insert field.key left) = ofMembers (members.insert field.key right) := by
  have fields (other : Field) : readField (members.insert field.key left) other =
      readField (members.insert field.key right) other := by
    by_cases atField : other = field
    · subst atField
      rw [readField_insert_same, readField_insert_same, same]
    · rw [readField_insert_other members atField, readField_insert_other members atField]
  simp only [ofMembers, firstError?_congr fields, fields]

theorem ofMembers_insert_nil (field : Field) :
    ofMembers (Json.Members.insert [] field.key .null) = .ok unset := by
  refine ofMembers_eq_ok fun other => ?_
  have absent : readField [] other = .ok (unset.value other) := by
    rw [readField_of_absent (Json.Members.get?_nil _), value_unset]
  by_cases atField : other = field
  · subst atField
    rw [readField_insert_same, ← absent]
    exact (other.skipsUnset _ _).symm
  · rw [readField_insert_other [] atField, absent]

end ViewerLogin.Response
