import ViewerLogin.Proofs.Request.Form
import ViewerLogin.Proofs.Wire.Codec

/-!
# Fields of requests

A request has four required texts and sixteen optional fields, each with a key of its own. A map
is read as a request exactly when every field of the request is what its key gives. Otherwise the
error is that of the first key that gives none.
-/

namespace ViewerLogin.Request

open Wire (bind_eq_ok_iff)

theorem RequiredField.mem_all (field : RequiredField) : field ∈ all := by
  cases field <;> decide

inductive OptionalField where
  | channel
  | version
  | platform
  | platformString
  | platformVersion
  | mac
  | id0
  | agreeToTos
  | readCritical
  | viewerDigest
  | addressSize
  | extendedErrors
  | lastExecEvent
  | lastExecDuration
  | skipOptional
  | selector
  deriving DecidableEq, Repr

namespace OptionalField

def all : List OptionalField := [
  .channel, .version, .platform, .platformString, .platformVersion, .mac, .id0, .agreeToTos,
  .readCritical, .viewerDigest, .addressSize, .extendedErrors, .lastExecEvent,
  .lastExecDuration, .skipOptional, .selector]

theorem mem_all (field : OptionalField) : field ∈ all := by cases field <;> decide

def key : OptionalField → String
  | .channel => "channel"
  | .version => "version"
  | .platform => "platform"
  | .platformString => "platform_string"
  | .platformVersion => "platform_version"
  | .mac => "mac"
  | .id0 => "id0"
  | .agreeToTos => "agree_to_tos"
  | .readCritical => "read_critical"
  | .viewerDigest => "viewer_digest"
  | .addressSize => "address_size"
  | .extendedErrors => "extended_errors"
  | .lastExecEvent => "last_exec_event"
  | .lastExecDuration => "last_exec_duration"
  | .skipOptional => "skipoptional"
  | .selector => "options"

def form : OptionalField → Form
  | .agreeToTos | .readCritical | .skipOptional => .flag
  | .lastExecEvent => .event
  | .selector => .names
  | _ => .text

def read (field : OptionalField) (members : Json.Members) : Except Error field.form.Value :=
  field.form.read members field.key

end OptionalField

def value (request : Request) : (field : OptionalField) → field.form.Value
  | .channel => request.channel
  | .version => request.version
  | .platform => request.platform
  | .platformString => request.platformString
  | .platformVersion => request.platformVersion
  | .mac => request.mac
  | .id0 => request.id0
  | .agreeToTos => request.agreeToTos
  | .readCritical => request.readCritical
  | .viewerDigest => request.viewerDigest
  | .addressSize => request.addressSize
  | .extendedErrors => request.extendedErrors
  | .lastExecEvent => request.lastExecEvent
  | .lastExecDuration => request.lastExecDuration
  | .skipOptional => request.skipOptional
  | .selector => request.selector

def keys : List String :=
  RequiredField.all.map RequiredField.key ++ OptionalField.all.map OptionalField.key

theorem nodup_keys : keys.Nodup := by decide

/-! ## Reading the fields -/

theorem ofMembers_eq_ok_iff {members : Json.Members} {request : Request} :
    ofMembers members = .ok request ↔
      (∀ field, checkRequired members field = .ok (request.required field)) ∧
        ∀ field : OptionalField, field.read members = .ok (request.value field) := by
  unfold ofMembers
  simp only [bind_eq_ok_iff]
  -- Each reading stands beside the value it gives, in the order of the fields.
  constructor
  · rintro ⟨_, first, _, last, _, passwd, _, start, _, channel, _, version, _, platform,
      _, platformString, _, platformVersion, _, mac, _, id0, _, agreeToTos, _, readCritical,
      _, viewerDigest, _, addressSize, _, extendedErrors, _, lastExecEvent, _, lastExecDuration,
      _, skipOptional, _, selector, same⟩
    cases same
    constructor
    · intro field
      cases field <;> assumption
    · intro field
      cases field <;> assumption
  · intro ⟨required, optional⟩
    exact ⟨_, required .first, _, required .last, _, required .passwd, _, required .start,
      _, optional .channel, _, optional .version, _, optional .platform,
      _, optional .platformString, _, optional .platformVersion, _, optional .mac,
      _, optional .id0, _, optional .agreeToTos, _, optional .readCritical,
      _, optional .viewerDigest, _, optional .addressSize, _, optional .extendedErrors,
      _, optional .lastExecEvent, _, optional .lastExecDuration, _, optional .skipOptional,
      _, optional .selector, rfl⟩

/-! ## The first fault -/

def fault? {α : Type} : Except Error α → Option Error
  | .error error => some error
  | .ok _ => none

theorem fault?_eq_some_iff {α : Type} {result : Except Error α} {error : Error} :
    fault? result = some error ↔ result = .error error := by
  cases result with
  | error other => simp [fault?]
  | ok value => simp [fault?]

theorem fault?_eq_none_iff {α : Type} {result : Except Error α} :
    fault? result = none ↔ ∃ value, result = .ok value := by
  cases result with
  | error other => simp [fault?]
  | ok value => simp [fault?]

/-- Where the next reading does not depend on this one, its faults come after those of this. -/
theorem fault?_bind {α β : Type} {first : Except Error α} {next : α → Except Error β}
    {later : Option Error} (same : ∀ value, fault? (next value) = later) :
    fault? (first >>= next) = (fault? first).or later := by
  cases first with
  | error error => rfl
  | ok value => exact same value

theorem findSome?_cons_eq_or {α β : Type} (find : α → Option β) (first : α) (rest : List α) :
    (first :: rest).findSome? find = (find first).or (rest.findSome? find) := by
  rw [List.findSome?_cons]
  cases find first <;> rfl

/-- The fault of a map is that of the first key that has one. -/
theorem fault?_ofMembers (members : Json.Members) :
    fault? (ofMembers members) =
      (RequiredField.all.findSome? fun field => fault? (checkRequired members field)).or
        (OptionalField.all.findSome? fun field => fault? (field.read members)) := by
  simp only [RequiredField.all, OptionalField.all, findSome?_cons_eq_or, List.findSome?_nil,
    Option.or_assoc, Option.none_or]
  -- No field is read in a way that depends on another, so the faults are tried one by one.
  exact fault?_bind fun _ => fault?_bind fun _ => fault?_bind fun _ => fault?_bind fun _ =>
    fault?_bind fun _ => fault?_bind fun _ => fault?_bind fun _ => fault?_bind fun _ =>
    fault?_bind fun _ => fault?_bind fun _ => fault?_bind fun _ => fault?_bind fun _ =>
    fault?_bind fun _ => fault?_bind fun _ => fault?_bind fun _ => fault?_bind fun _ =>
    fault?_bind fun _ => fault?_bind fun _ => fault?_bind fun _ => fault?_bind fun _ => rfl

/-- A map is only read at the keys of the fields. -/
theorem ofMembers_congr {left right : Json.Members}
    (required : ∀ field, checkRequired left field = checkRequired right field)
    (optional : ∀ field : OptionalField, field.read left = field.read right) :
    ofMembers left = ofMembers right := by
  cases outcome : ofMembers right with
  | ok request =>
      rw [ofMembers_eq_ok_iff] at outcome ⊢
      simpa only [required, optional] using outcome
  | error error =>
      rw [← fault?_eq_some_iff, fault?_ofMembers] at outcome ⊢
      simpa only [required, optional] using outcome

end ViewerLogin.Request
