import ViewerLogin.Proofs.Request

/-!
# Requests that were read

A request that was read has no blank field, so nobody has to complain about one later, and what
is written for it reads as the same request again.
-/

namespace ViewerLogin.Request

theorem checkRequired_eq_ok_iff {members : Json.Members} {field : RequiredField} {text : String} :
    checkRequired members field = .ok text ↔
      members.get? field.key = some (.text text) ∧ Text.isBlankText text = false := by
  unfold checkRequired
  split
  · next given found =>
      rw [found]
      cases blank : Text.isBlankText given with
      | true =>
          rw [if_pos rfl]
          constructor
          · exact nofun
          · rintro ⟨same, filled⟩
            cases same
            rw [blank] at filled
            contradiction
      | false =>
          rw [if_neg Bool.false_ne_true]
          constructor
          · intro same
            cases same
            exact ⟨rfl, blank⟩
          · rintro ⟨same, _⟩
            cases same
            rfl
  · next absent => simp [absent]
  · next other notText found =>
      rw [found]
      constructor
      · exact nofun
      · rintro ⟨same, _⟩
        exact absurd (Option.some.inj same) (notText text)

/-- Reading lets no blank field pass. -/
theorem firstBlank?_of_ofMembers {members : Json.Members} {request : Request}
    (read : ofMembers members = .ok request) : request.firstBlank? = none := by
  rw [firstBlank?_eq_none_iff]
  intro field
  exact (checkRequired_eq_ok_iff.mp ((ofMembers_eq_ok_iff.mp read).1 field)).2

theorem firstBlank?_of_ofJson {parameters : Json} {request : Request}
    (read : ofJson parameters = .ok request) : request.firstBlank? = none := by
  cases parameters with
  | map members => exact firstBlank?_of_ofMembers read
  | _ => contradiction

/-! ## Written and read again -/

/-- A request is read as it was written, with all its texts, flags and names, unless a required
field is blank: then the first of these is what is missing. Whatever was read, in whatever
spelling, is written in a way that reads as the same request. -/
theorem ofMembers_toMembers (request : Request) :
    ofMembers request.toMembers =
        (match request.firstBlank? with
        | some field => .error (.missing field)
        | none => .ok request) ∧
      ∀ members, ofMembers members = .ok request → ofMembers request.toMembers = .ok request := by
  constructor
  · cases blank : request.firstBlank? with
    | some field => exact ofMembers_of_blank blank
    | none => exact ofMembers_of_filled blank
  · intro members read
    exact ofMembers_of_filled (firstBlank?_of_ofMembers read)

def foreign : Json.Members := .ofList [
  ("first", .text " Ruth "), ("last", .text "Linden"), ("passwd", .text "$1$"),
  ("start", .text "uri:Morris&128&128&25"),
  ("address_size", .number (.integer 64)),
  ("agree_to_tos", .text "false"),
  ("last_exec_event", .number (.integer (-0x8000000000000000))),
  ("mac", .null),
  ("options", .list [.text "voice-config", .text "gestures", .text "voice-config"]),
  ("token", .list [])]

theorem ofMembers_toMembers_foreign :
    let request : Request :=
      { of " Ruth " "Linden" "$1$" "uri:Morris&128&128&25" with
        addressSize := some "64"
        agreeToTos := some false
        lastExecEvent := some (-0x8000000000000000)
        selector := .ofNames ["voice-config", "gestures", "voice-config"] }
    ofMembers foreign = .ok request ∧ request.selector.names = ["gestures", "voice-config"] ∧
      ofMembers request.toMembers = .ok request := by
  intro request
  have read : ofMembers foreign = .ok request := by decide +kernel
  exact ⟨read, by decide +kernel, (ofMembers_toMembers request).2 foreign read⟩

end ViewerLogin.Request
