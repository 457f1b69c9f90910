import ViewerLogin.Proofs.Request.Format

/-!
# Keys that are null

Some viewers leave out what they have not set, others send null for it. Texts and flags read the
same either way. The event and the list of names do not: null at their keys is refused.
-/

namespace ViewerLogin

/-! ## Null and nothing -/

namespace Json.Members

def nullAt (members : Members) (keys : List String) : Members :=
  keys.foldl (fun members key => Members.insert members key .null) members

def without (members : Members) (keys : List String) : Members :=
  members.filter fun entry => entry.1 ∉ keys

theorem get?_nullAt (members : Members) (keys : List String) (key : String) :
    (members.nullAt keys).get? key = if key ∈ keys then some .null else members.get? key := by
  induction keys generalizing members with
  | nil => rfl
  | cons first rest induction =>
      have inserted := induction (Members.insert members first .null)
      rw [get?_insert] at inserted
      rw [nullAt, List.foldl_cons]
      apply inserted.trans
      by_cases atRest : key ∈ rest
      · simp [atRest]
      · simp [atRest]

theorem get?_without (members : Members) (keys : List String) (key : String) :
    (members.without keys).get? key = if key ∈ keys then none else members.get? key := by
  rw [without, get?_filter_key members fun name => name ∉ keys]
  by_cases member : key ∈ keys
  · simp [member]
  · simp [member]

theorem get?_nullAt_eq_without {keys : List String} {key : String} (elsewhere : key ∉ keys)
    (members : Members) : (members.nullAt keys).get? key = (members.without keys).get? key := by
  rw [get?_nullAt, get?_without, if_neg elsewhere, if_neg elsewhere]

end Json.Members

namespace Request

variable {members : Json.Members} {keys : List String}

/-! ## Fields at null -/

def Form.takesNull : Form → Bool
  | .text | .flag => true
  | .event | .names => false

theorem Form.takes_null_iff {form : Form} : form.Takes .null ↔ form.takesNull = true := by
  cases form with
  | text | flag => simp [Form.Takes, Form.takesNull]
  | event | names => simp [Form.Takes, Form.takesNull]

/-- Of the forms that take null, null means what nothing means. -/
theorem Form.read_eq_of_takesNull {form : Form} (takes : form.takesNull = true) {key : String}
    {left right : Json.Members} (null : left.get? key = some .null)
    (nothing : right.get? key = none) : form.read left key = form.read right key := by
  cases form with
  | text => rw [Form.read, readText, readText, null, nothing]
  | flag => rw [Form.read, readFlag, readFlag, null, nothing]
  | event | names => contradiction

theorem OptionalField.read_nullAt {field : OptionalField}
    (takes : field.key ∈ keys → field.form.takesNull = true) :
    field.read (members.nullAt keys) = field.read (members.without keys) := by
  by_cases named : field.key ∈ keys
  · apply Form.read_eq_of_takesNull (takes named)
    · rw [Json.Members.get?_nullAt, if_pos named]
    · rw [Json.Members.get?_without, if_pos named]
  · exact field.form.read_congr (Json.Members.get?_nullAt_eq_without named members)

theorem OptionalField.not_sound_nullAt {field : OptionalField} (named : field.key ∈ keys)
    (refuses : field.form.takesNull = false) : ¬field.Sound (members.nullAt keys) := by
  intro sound
  have null : (members.nullAt keys).get? field.key = some .null := by
    rw [Json.Members.get?_nullAt, if_pos named]
  have takes := Form.takes_null_iff.mp (sound .null null)
  rw [refuses] at takes
  contradiction

/-! ## Maps with null -/

theorem checkRequired_nullAt (elsewhere : ∀ field : RequiredField, field.key ∉ keys)
    (field : RequiredField) :
    checkRequired (members.nullAt keys) field = checkRequired (members.without keys) field := by
  rw [checkRequired, checkRequired, Json.Members.get?_nullAt_eq_without (elsewhere field)]

/-- The first field whose null is refused is what is wrong with a map that could be read
without the keys. -/
theorem ofMembers_nullAt_of_refused (elsewhere : ∀ field : RequiredField, field.key ∉ keys)
    (readable : ∃ request, ofMembers (members.without keys) = .ok request)
    (before after : List OptionalField) (field : OptionalField)
    (order : OptionalField.all = before ++ field :: after) (named : field.key ∈ keys)
    (refuses : field.form.takesNull = false)
    (taken : ∀ earlier ∈ before, earlier.key ∈ keys → earlier.form.takesNull = true) :
    ofMembers (members.nullAt keys) = .error (.wrongShape field.key field.form.shape) := by
  obtain ⟨required, optional⟩ := exists_ofMembers_eq_ok_iff.mp readable
  apply ofMembers_eq_error_iff.mpr
  apply FirstFault.optional before after field _ order _ (field.not_sound_nullAt named refuses)
  · intro each
    rw [← RequiredField.fault?_eq_none_iff, checkRequired_nullAt elsewhere]
    exact RequiredField.fault?_eq_none_iff.mpr (required each)
  · intro earlier member
    rw [← OptionalField.fault?_eq_none_iff, OptionalField.read_nullAt (taken earlier member)]
    exact OptionalField.fault?_eq_none_iff.mpr (optional earlier)

/-- Null at optional keys reads as nothing at them, as long as the keys of the event and of the
names are not among them. If they are, a map that could be read without them is refused. -/
theorem ofMembers_nullAt (members : Json.Members) (keys : List String)
    (elsewhere : ∀ field : RequiredField, field.key ∉ keys) :
    ("last_exec_event" ∉ keys → "options" ∉ keys →
      ofMembers (members.nullAt keys) = ofMembers (members.without keys)) ∧
    ∀ request, ofMembers (members.without keys) = .ok request →
      ("last_exec_event" ∈ keys →
        ofMembers (members.nullAt keys) = .error (.wrongShape "last_exec_event" .integer)) ∧
      ("last_exec_event" ∉ keys → "options" ∈ keys →
        ofMembers (members.nullAt keys) = .error (.wrongShape "options" .optionNames)) := by
  constructor
  · intro noEvent noNames
    apply ofMembers_congr (checkRequired_nullAt elsewhere)
    intro field
    apply OptionalField.read_nullAt
    intro named
    cases field with
    | lastExecEvent => exact absurd named noEvent
    | selector => exact absurd named noNames
    | _ => rfl
  · intro request readable
    constructor
    · intro named
      have textsAndFlags : ∀ earlier ∈ OptionalField.all.take 12,
          earlier.form.takesNull = true := by decide
      exact ofMembers_nullAt_of_refused elsewhere ⟨request, readable⟩ (OptionalField.all.take 12)
        (OptionalField.all.drop 13) .lastExecEvent rfl named rfl
        fun earlier member _ => textsAndFlags earlier member
    · intro noEvent named
      have textsAndFlags : ∀ earlier ∈ OptionalField.all.take 15,
          earlier = .lastExecEvent ∨ earlier.form.takesNull = true := by decide
      apply ofMembers_nullAt_of_refused elsewhere ⟨request, readable⟩ (OptionalField.all.take 15)
        [] .selector rfl named rfl
      intro earlier member earlierNamed
      obtain isEvent | takes := textsAndFlags earlier member
      · subst isEvent
        exact absurd earlierNamed noEvent
      · exact takes

theorem ofMembers_nullAt_foreign :
    let unset := ["mac", "agree_to_tos", "skipoptional", "token"]
    (∀ field : RequiredField, field.key ∉ unset) ∧
      ofMembers (foreign.nullAt unset) = ofMembers (foreign.without unset) ∧
      ofMembers (foreign.nullAt ("options" :: unset)) =
        .error (.wrongShape "options" .optionNames) := by
  intro unset
  have elsewhere : ∀ field : RequiredField, field.key ∉ "options" :: unset := by
    intro field
    cases field <;> decide
  have unsetElsewhere : ∀ field : RequiredField, field.key ∉ unset :=
    fun field member => elsewhere field (List.mem_cons_of_mem _ member)
  have readable : ∃ request, ofMembers (foreign.without ("options" :: unset)) = .ok request :=
    ⟨{ of " Ruth " "Linden" "$1$" "uri:Morris&128&128&25" with
        addressSize := some "64"
        lastExecEvent := some (-0x8000000000000000) }, by decide +kernel⟩
  obtain ⟨request, reads⟩ := readable
  exact ⟨unsetElsewhere,
    (ofMembers_nullAt foreign unset unsetElsewhere).1 (by decide) (by decide),
    ((ofMembers_nullAt foreign ("options" :: unset) elsewhere).2 request reads).2 (by decide)
      List.mem_cons_self⟩

/-- A viewer that sends null for an event it has not set is turned away. -/
theorem ofMembers_nullEvent :
    let plain := (of "Ruth" "Linden" "$1$" "last").toMembers
    (∀ field : RequiredField, field.key ∉ ["last_exec_event"]) ∧
      ofMembers (plain.nullAt ["last_exec_event"]) =
        .error (.wrongShape "last_exec_event" .integer) ∧
      ofMembers (plain.without ["last_exec_event"]) = .ok (of "Ruth" "Linden" "$1$" "last") := by
  intro plain
  refine ⟨?_, by decide +kernel, by decide +kernel⟩
  intro field
  cases field <;> decide

end Request

end ViewerLogin
