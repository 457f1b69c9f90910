import ViewerLogin.Proofs.Request.Reading

/-!
# The format of requests

Besides its four required texts a request has sixteen optional fields of four forms. A map is
read exactly when every key holds what its form takes, and the request is then made of what the
keys mean. Otherwise the error is that of the first key that holds something else, the required
keys before all others.
-/

namespace ViewerLogin.Request

variable {members : Json.Members}

/-! ## Fields -/

def RequiredField.Sound (members : Json.Members) (field : RequiredField) : Prop :=
  ∃ text, members.get? field.key = some (.text text) ∧ Text.isBlankText text = false

inductive RequiredField.Fault (members : Json.Members) (field : RequiredField) : Error → Prop where
  | absent (nothing : members.get? field.key = none) : Fault members field (.missing field)
  | blank (text : String) (found : members.get? field.key = some (.text text))
      (blank : Text.isBlankText text = true) : Fault members field (.missing field)
  | misshapen (json : Json) (found : members.get? field.key = some json)
      (notText : ∀ text, json ≠ .text text) : Fault members field (.wrongShape field.key .text)

theorem checkRequired_eq_error_iff {field : RequiredField} {error : Error} :
    checkRequired members field = .error error ↔ field.Fault members error := by
  constructor
  · intro refused
    unfold checkRequired at refused
    split at refused
    · next text found =>
        split at refused
        · next blank =>
            cases refused
            exact .blank text found blank
        · contradiction
    · next nothing =>
        cases refused
        exact .absent nothing
    · next json notText found =>
        cases refused
        exact .misshapen json found notText
  · intro fault
    cases fault with
    | absent nothing => rw [checkRequired, nothing]
    | blank text found blank => rw [checkRequired, found]; exact if_pos blank
    | misshapen json found notText =>
        rw [checkRequired, found]
        cases json with
        | text text => exact absurd rfl (notText text)
        | _ => rfl

namespace OptionalField

def Sound (members : Json.Members) (field : OptionalField) : Prop :=
  ∀ json, members.get? field.key = some json → field.form.Takes json

theorem not_sound_iff {field : OptionalField} :
    ¬field.Sound members ↔ ∃ json, members.get? field.key = some json ∧ ¬field.form.Takes json := by
  simp [Sound]

end OptionalField

/-! ## Whole maps -/

/-- The required texts stand in the map as they are in the request, and every other field of the
request is what its key means. -/
structure Describes (members : Json.Members) (request : Request) : Prop where
  required : ∀ field : RequiredField,
    members.get? field.key = some (.text (request.required field)) ∧
      Text.isBlankText (request.required field) = false
  optional : ∀ field : OptionalField,
    field.form.Means (members.get? field.key) (request.value field)

/-- A fault of the first required key that has one, or if none has, of the first other key. -/
inductive FirstFault (members : Json.Members) : Error → Prop where
  | required (before after : List RequiredField) (field : RequiredField) (error : Error)
      (order : RequiredField.all = before ++ field :: after)
      (sound : ∀ earlier ∈ before, earlier.Sound members)
      (fault : field.Fault members error) : FirstFault members error
  | optional (before after : List OptionalField) (field : OptionalField)
      (required : ∀ field : RequiredField, field.Sound members)
      (order : OptionalField.all = before ++ field :: after)
      (sound : ∀ earlier ∈ before, earlier.Sound members)
      (unsound : ¬field.Sound members) :
      FirstFault members (.wrongShape field.key field.form.shape)

theorem RequiredField.fault?_eq_none_iff {field : RequiredField} :
    fault? (checkRequired members field) = none ↔ field.Sound members := by
  rw [Request.fault?_eq_none_iff]
  constructor
  · intro ⟨text, checked⟩
    exact ⟨text, checkRequired_eq_ok_iff.mp checked⟩
  · intro ⟨text, holds⟩
    exact ⟨text, checkRequired_eq_ok_iff.mpr holds⟩

theorem OptionalField.fault?_eq_some_iff {field : OptionalField} {error : Error} :
    fault? (field.read members) = some error ↔
      ¬field.Sound members ∧ error = .wrongShape field.key field.form.shape := by
  rw [Request.fault?_eq_some_iff, OptionalField.read, Form.read_eq_error_iff,
    OptionalField.not_sound_iff]

theorem OptionalField.fault?_eq_none_iff {field : OptionalField} :
    fault? (field.read members) = none ↔ field.Sound members := by
  rw [Option.eq_none_iff_forall_ne_some]
  constructor
  · intro faultless
    by_contra unsound
    exact faultless _ (OptionalField.fault?_eq_some_iff.mpr ⟨unsound, rfl⟩)
  · intro sound error fault
    exact (OptionalField.fault?_eq_some_iff.mp fault).1 sound

theorem ofMembers_eq_ok_iff_describes {request : Request} :
    ofMembers members = .ok request ↔ Describes members request := by
  rw [ofMembers_eq_ok_iff]
  constructor
  · intro ⟨required, optional⟩
    exact ⟨fun field => checkRequired_eq_ok_iff.mp (required field),
      fun field => Form.read_eq_ok_iff.mp (optional field)⟩
  · intro describes
    exact ⟨fun field => checkRequired_eq_ok_iff.mpr (describes.required field),
      fun field => Form.read_eq_ok_iff.mpr (describes.optional field)⟩

theorem ofMembers_eq_error_iff {error : Error} :
    ofMembers members = .error error ↔ FirstFault members error := by
  rw [← fault?_eq_some_iff, fault?_ofMembers, Option.or_eq_some_iff, List.findSome?_eq_some_iff,
    List.findSome?_eq_none_iff, List.findSome?_eq_some_iff]
  constructor
  · intro found
    obtain ⟨before, field, after, order, fault, sound⟩ |
      ⟨required, before, field, after, order, fault, sound⟩ := found
    · exact .required before after field error order
        (fun earlier member => RequiredField.fault?_eq_none_iff.mp (sound earlier member))
        (checkRequired_eq_error_iff.mp (fault?_eq_some_iff.mp fault))
    · obtain ⟨unsound, same⟩ := OptionalField.fault?_eq_some_iff.mp fault
      rw [same]
      exact .optional before after field
        (fun each => RequiredField.fault?_eq_none_iff.mp (required each each.mem_all)) order
        (fun earlier member => OptionalField.fault?_eq_none_iff.mp (sound earlier member)) unsound
  · intro first
    cases first with
    | required before after field _ order sound fault =>
        exact .inl ⟨before, field, after, order,
          fault?_eq_some_iff.mpr (checkRequired_eq_error_iff.mpr fault),
          fun earlier member => RequiredField.fault?_eq_none_iff.mpr (sound earlier member)⟩
    | optional before after field required order sound unsound =>
        exact .inr ⟨fun each _ => RequiredField.fault?_eq_none_iff.mpr (required each),
          before, field, after, order, OptionalField.fault?_eq_some_iff.mpr ⟨unsound, rfl⟩,
          fun earlier member => OptionalField.fault?_eq_none_iff.mpr (sound earlier member)⟩

theorem exists_ofMembers_eq_ok_iff :
    (∃ request, ofMembers members = .ok request) ↔
      (∀ field : RequiredField, field.Sound members) ∧
        ∀ field : OptionalField, field.Sound members := by
  rw [← fault?_eq_none_iff, fault?_ofMembers, Option.or_eq_none_iff, List.findSome?_eq_none_iff,
    List.findSome?_eq_none_iff]
  simp only [RequiredField.fault?_eq_none_iff, OptionalField.fault?_eq_none_iff,
    RequiredField.mem_all, OptionalField.mem_all, true_implies]

/-- A map is read as a request exactly when it is in the format, and then as the one it
describes; otherwise the error is that of the first faulty key. Members at other keys do not
matter. -/
theorem ofMembers_format (members : Json.Members) :
    ((∃ request, ofMembers members = .ok request) ↔
      (∀ field : RequiredField, field.Sound members) ∧
        ∀ field : OptionalField, field.Sound members) ∧
    (∀ request, ofMembers members = .ok request ↔ Describes members request) ∧
    (∀ error, ofMembers members = .error error ↔ FirstFault members error) ∧
    ofMembers (members.filter fun entry => entry.1 ∈ keys) = ofMembers members := by
  refine ⟨exists_ofMembers_eq_ok_iff, fun _ => ofMembers_eq_ok_iff_describes,
    fun _ => ofMembers_eq_error_iff, ?_⟩
  have kept {key : String} (isKey : key ∈ keys) :
      Json.Members.get? (members.filter fun entry => entry.1 ∈ keys) key = members.get? key := by
    rw [Json.Members.get?_filter_key members fun name => name ∈ keys, decide_eq_true isKey]
    rfl
  apply ofMembers_congr
  · intro field
    have isKey : field.key ∈ keys :=
      List.mem_append_left _ (List.mem_map_of_mem field.mem_all)
    rw [checkRequired, checkRequired, kept isKey]
  · intro field
    have isKey : field.key ∈ keys :=
      List.mem_append_right _ (List.mem_map_of_mem field.mem_all)
    exact field.form.read_congr (kept isKey)

end ViewerLogin.Request
