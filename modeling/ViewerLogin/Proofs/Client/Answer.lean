import ViewerLogin.Client.Exchange
import ViewerLogin.Proofs.Call

/-!
# What a client reads of an answer

A fault is reported with its status and its message. A reply gives back the parameters that were
put into it.
-/

namespace ViewerLogin.Client

open Json (Writable)

theorem detail?_ofFault (fault : Call.Fault) :
    detail? (Answer.ofFault fault).octets = some fault.message := by
  have writable : Writable Json.nestingLimit (.object [("error", .text fault.message)]) := by
    apply Json.writable_ofList
    intro pair member
    rw [List.mem_singleton.mp member]
    exact .text _ _
  have body : Json.ofOctets? (Answer.ofFault fault).octets =
      some (.map [("error", .text fault.message)]) :=
    Json.ofOctets?_encode writable
  rw [detail?, body]
  rfl

theorem readReply_ofFault (method : String) (fault : Call.Fault) :
    readReply method (Answer.ofFault fault).status (Answer.ofFault fault).octets =
      .error (.failed method fault.status (some fault.message)) := by
  have failure : Status.isSuccess (Answer.ofFault fault).status = false := by
    cases fault <;> rfl
  rw [readReply, failure, detail?_ofFault]
  rfl

theorem readReply_ofReply (method : String) {params : List Json}
    (writable : ∀ param ∈ params, Writable Call.paramNesting param) :
    readReply method (Answer.ofReply params).status (Answer.ofReply params).octets =
      .ok params := by
  have reply : Reply.ofOctets? (Answer.ofReply params).octets = some ⟨params⟩ :=
    Reply.ofOctets?_toJson writable
  rw [readReply, reply]
  rfl

end ViewerLogin.Client
