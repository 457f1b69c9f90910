import ViewerLogin.Proofs.Response.Insertion

/-!
# Each key by itself

A map is read key by key. What is read of a key is what a map of that key alone gives, and if some
keys cannot be read the first of them in the order of reading decides about the error.
-/

namespace ViewerLogin

namespace Json.Members

def only (members : Members) (key : String) : Members :=
  match members.get? key with
  | some value => [(key, value)]
  | none => []

theorem get?_only (members : Members) (key other : String) :
    (members.only key).get? other = if other = key then members.get? key else none := by
  unfold only
  cases stands : members.get? key with
  | none => exact (ite_self none).symm
  | some value => exact get?_cons [] key other value

end Json.Members

namespace Response

variable (members : Json.Members)

theorem readField_only_same (field : Field) :
    readField (members.only field.key) field = readField members field := by
  rw [readField, Wire.Codec.readAt, Json.Members.get?_only, if_pos rfl]
  rfl

theorem readField_only_other {field other : Field} (different : other ≠ field) :
    readField (members.only field.key) other = .ok (unset.value other) := by
  have differentKey : other.key ≠ field.key := fun same => different (Field.eq_of_key_eq same)
  have absent : (members.only field.key).get? other.key = none := by
    rw [Json.Members.get?_only, if_neg differentKey]
  rw [readField_of_absent absent, value_unset]

/-- A map of one key is read as the response that has the value of that key and is unset in all
other fields. -/
theorem ofMembers_only (field : Field) :
    ofMembers (members.only field.key) = (readField members field).map (unset.set field) := by
  cases outcome : readField members field with
  | error error =>
      refine ofMembers_eq_error ((readField_only_same members field).trans outcome) ?_
      intro other different
      exact ⟨_, readField_only_other members different⟩
  | ok found =>
      apply ofMembers_eq_ok
      intro other
      by_cases atField : other = field
      · subst atField
        rw [readField_only_same, outcome, value_set_same]
      · rw [readField_only_other members atField, value_set_other unset atField]

theorem ofMembers_only_eq_ok_iff (field : Field) :
    (∃ alone, ofMembers (members.only field.key) = .ok alone) ↔
      ∃ found, readField members field = .ok found := by
  rw [ofMembers_only]
  constructor
  · intro ⟨alone, isRead⟩
    obtain ⟨found, fieldRead, _⟩ := Wire.map_eq_ok_iff.mp isRead
    exact ⟨found, fieldRead⟩
  · intro ⟨found, fieldRead⟩
    exact ⟨_, Wire.map_eq_ok_iff.mpr ⟨found, fieldRead, rfl⟩⟩

theorem ofMembers_only_eq_error_iff {field : Field} {error : Wire.Error} :
    ofMembers (members.only field.key) = .error error ↔
      readField members field = .error error := by
  rw [ofMembers_only]
  exact Wire.map_eq_error_iff

theorem ofMembers_eq_error_iff {error : Wire.Error} :
    ofMembers members = .error error ↔
      firstError? members Field.readingOrder = some error := by
  unfold ofMembers
  cases firstError? members Field.readingOrder with
  | none => exact ⟨nofun, nofun⟩
  | some other => exact ⟨fun same => congrArg some (Except.error.inj same),
      fun same => congrArg Except.error (Option.some.inj same)⟩

theorem exists_ofMembers_eq_ok_iff :
    (∃ response, ofMembers members = .ok response) ↔
      ∀ field, ∃ found, readField members field = .ok found := by
  constructor
  · intro ⟨response, isRead⟩ field
    exact ⟨_, ofMembers_eq_ok_iff.mp isRead field⟩
  · intro reads
    choose found isRead using reads
    refine ⟨ofFields found, ofMembers_eq_ok ?_⟩
    intro field
    rw [isRead, value_ofFields]

theorem value_eq_of_only {members : Json.Members} {response alone : Response} {field : Field}
    (whole : ofMembers members = .ok response)
    (single : ofMembers (members.only field.key) = .ok alone) :
    response.value field = alone.value field := by
  have inWhole := ofMembers_eq_ok_iff.mp whole field
  have inSingle := ofMembers_eq_ok_iff.mp single field
  rw [readField_only_same, inWhole] at inSingle
  exact Except.ok.inj inSingle

/-- A map can be read when each key of a field that it has can be read by itself, and each field is
then what its own key gives. Otherwise the error is the one that the first key to fail gives by
itself. Two maps with the same at one key have the same there when they are read, whatever they
hold elsewhere. -/
theorem ofMembers_separately :
    ((∃ response, ofMembers members = .ok response) ↔
      ∀ field : Field, members.get? field.key ≠ none →
        ∃ alone, ofMembers (members.only field.key) = .ok alone) ∧
    (∀ response, ofMembers members = .ok response → ∀ field : Field,
      ∃ alone, ofMembers (members.only field.key) = .ok alone ∧
        response.value field = alone.value field) ∧
    (∀ error, ofMembers members = .error error ↔
      ∃ before failing after, Field.readingOrder = before ++ failing :: after ∧
        (∀ field ∈ before, ∃ alone, ofMembers (members.only field.key) = .ok alone) ∧
        ofMembers (members.only failing.key) = .error error) ∧
    ∀ (other : Json.Members) (left right : Response) (field : Field),
      members.get? field.key = other.get? field.key →
      ofMembers members = .ok left → ofMembers other = .ok right →
        left.value field = right.value field := by
  refine ⟨?_, ?_, ?_, ?_⟩
  · rw [exists_ofMembers_eq_ok_iff]
    constructor
    · intro reads field _
      exact (ofMembers_only_eq_ok_iff members field).mpr (reads field)
    · intro alone field
      by_cases absent : members.get? field.key = none
      · exact ⟨_, readField_of_absent absent⟩
      · exact (ofMembers_only_eq_ok_iff members field).mp (alone field absent)
  · intro response whole field
    obtain ⟨alone, single⟩ := (ofMembers_only_eq_ok_iff members field).mpr
      ⟨_, ofMembers_eq_ok_iff.mp whole field⟩
    exact ⟨alone, single, value_eq_of_only whole single⟩
  · intro error
    rw [ofMembers_eq_error_iff, firstError?_eq_some_iff]
    simp only [ofMembers_only_eq_ok_iff, ofMembers_only_eq_error_iff]
  · intro other left right field same leftRead rightRead
    have sameField : readField members field = readField other field :=
      congrArg (field.codec.read field.key) same
    rw [ofMembers_eq_ok_iff.mp leftRead field, ofMembers_eq_ok_iff.mp rightRead field] at sameField
    exact Except.ok.inj sameField

def twoFaults : Json.Members :=
  [("agent_id", .text "nobody"), ("first_name", .text "Ruth"), ("home", .truth true)]

theorem ofMembers_separately_twoFaults :
    ofMembers (twoFaults.only "agent_id") = .error (.invalid "agent_id" "nobody") ∧
      ofMembers twoFaults = .error (.wrongShape "home" .home) := by
  obtain ⟨_, _, fails, _⟩ := ofMembers_separately twoFaults
  refine ⟨by decide +kernel, (fails _).mpr ?_⟩
  refine ⟨[], .core .home, Field.readingOrder.tail, rfl, List.forall_mem_nil _, by decide +kernel⟩

/-- The keys in the order of reading. -/
example : Field.readingOrder.map Field.key = [
    "home", "look_at", "agent_access", "agent_access_max", "seed_capability", "first_name",
    "last_name", "agent_id", "sim_ip", "sim_port", "http_port", "start_location", "region_x",
    "region_y", "region_size_x", "region_size_y", "circuit_code", "session_id",
    "secure_session_id", "inventory-root", "inventory-skeleton", "inventory-lib-root",
    "inventory-skel-lib", "inventory-lib-owner", "map-server-url", "buddy-list", "gestures",
    "initial-outfit", "global-textures", "login", "login-flags", "message", "ui-config",
    "event_categories", "classified_categories", "max-agent-groups"] := rfl

end Response

end ViewerLogin
