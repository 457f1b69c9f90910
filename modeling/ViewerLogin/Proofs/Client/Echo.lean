import ViewerLogin.Proofs.Client.Answer

/-!
# What a client sees of an echo

Parameters that a client has echoed pass through a call and a reply, and through two JSON texts and
their octets. They come back as they were, and the service is left as it was.
-/

namespace ViewerLogin.Client

open Json (Writable)

theorem receive_echoCall {service : Service} {params : List Json}
    (writable : ∀ param ∈ params, Writable Call.paramNesting param)
    (small : ¬service.settings.maxRequestBytes < (echoCall params).toOctets.length)
    (draw : Draw) :
    service.receive draw (echoCall params).toOctets = (.ok params, service) := by
  have read : Call.ofOctets? (echoCall params).toOctets = some (echoCall params) :=
    Call.ofOctets?_toOctets writable
  have notLogin : Call.echoMethod ≠ Call.loginMethod := by decide
  rw [Service.receive, if_neg small, read]
  exact (if_neg notLogin).trans (if_pos rfl)

theorem echo_eq_receive (service : Service) (draw : Draw) (params : List Json) :
    let received := service.receive draw (echoCall params).toOctets
    echo service draw params =
      (readReply Call.echoMethod (Answer.ofResult received.1).status
        (Answer.ofResult received.1).octets, received.2) := rfl

/-- Parameters without reals, with at most 125 lists and maps inside each other, come back in the
same order and with the same keys and values. A call that is too large is a failure. Nothing
changes in either case. -/
theorem echo_params (service : Service) (draw : Draw) {params : List Json}
    (writable : ∀ param ∈ params, Writable 125 param) :
    echo service draw params =
      if service.settings.maxRequestBytes < (echoCall params).toOctets.length then
        (.error (.failed Call.echoMethod 413 (some "payload too large")), service)
      else
        (.ok params, service) := by
  rw [echo_eq_receive]
  split
  · next large =>
      have received : service.receive draw (echoCall params).toOctets =
          (.error .tooLarge, service) :=
        if_pos large
      rw [received]
      exact congrArg (·, service) (readReply_ofFault Call.echoMethod .tooLarge)
  · next small =>
      rw [receive_echoCall writable small]
      exact congrArg (·, service) (readReply_ofReply Call.echoMethod writable)

def fragile : List Json := [
  .list [.number (.integer (-0x8000000000000000)), .number (.integer 0xFFFFFFFFFFFFFFFF), .null],
  .map [("", .truth false), ("\"\\\u0000", .list []), ("é", .text "\u001f/\u007f\u2028😀\n")]]

theorem echo_params_fragile :
    let draw : Draw := ⟨.nil, .nil, .nil, 0, 0⟩
    let service : Service := ⟨.empty, .standard, .standard⟩
    let narrow : Service := ⟨.empty, .standard, ⟨true, 20⟩⟩
    (∀ param ∈ fragile, Writable 125 param) ∧
      echo service draw fragile = (.ok fragile, service) ∧
      echo narrow draw fragile =
        (.error (.failed "echo" 413 (some "payload too large")), narrow) := by
  intro draw service narrow
  have numbers : Writable 125 (.list [.number (.integer (-0x8000000000000000)),
      .number (.integer 0xFFFFFFFFFFFFFFFF), .null]) := by
    apply Writable.list
    intro item member
    simp only [List.mem_cons, List.not_mem_nil, or_false] at member
    obtain rfl | rfl | rfl := member
    · exact .integer _ (by decide) (by decide)
    · exact .integer _ (by decide) (by decide)
    · exact .null _
  have texts : Writable 125 (.map [("", .truth false), ("\"\\\u0000", .list []),
      ("é", .text "\u001f/\u007f\u2028😀\n")]) := by
    apply Writable.map
    · unfold Json.Members.Ascending
      decide
    · intro entry member
      simp only [List.mem_cons, List.not_mem_nil, or_false] at member
      obtain rfl | rfl | rfl := member
      · exact .truth _ _
      · exact .list (List.forall_mem_nil _)
      · exact .text _ _
  have writable : ∀ param ∈ fragile, Writable 125 param :=
    List.forall_mem_cons.mpr ⟨numbers, List.forall_mem_singleton.mpr texts⟩
  refine ⟨writable, ?_, ?_⟩
  · exact (echo_params service draw writable).trans (if_neg (by decide +kernel))
  · exact (echo_params narrow draw writable).trans (if_pos (by decide +kernel))

end ViewerLogin.Client
