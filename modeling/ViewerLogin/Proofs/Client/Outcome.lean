import ViewerLogin.Client.Outcome
import ViewerLogin.Proofs.Response.Decoding

/-!
# Outcomes of responses

What a viewer makes of the map that a response is written as: a success is accepted with what
can be read of it, and a refusal is rejected with its message and without a reason.
-/

namespace ViewerLogin.Outcome

theorem get?_login (response : Response) (blocks : List Block) :
    (response.toMembersWith blocks).get? "login" = some (Wire.Codec.truth.write response.login) :=
  response.get?_toMembersWith_of_mem (Field.core_mem_sent .login blocks)

theorem get?_message (response : Response) (blocks : List Block) :
    (response.toMembersWith blocks).get? "message" =
      some (Wire.Codec.text.write response.message) :=
  response.get?_toMembersWith_of_mem (Field.core_mem_sent .message blocks)

theorem get?_reason (response : Response) (blocks : List Block) :
    (response.toMembersWith blocks).get? "reason" = none := by
  have noField : ∀ each ∈ Field.readingOrder, each.key ≠ "reason" := by decide +kernel
  exact response.get?_toMembersWith_of_no_key fun field _ => noField field field.mem_readingOrder

/-- A response to a viewer that is let in is accepted. -/
theorem ofMembers_of_success {response : Response} (success : response.login = some true)
    (blocks : List Block) :
    ofMembers (response.toMembersWith blocks) =
      (Response.ofMembers (response.toMembersWith blocks)).map .accepted := by
  have accepted : saysAccepted (response.toMembersWith blocks) = true := by
    rw [saysAccepted, get?_login, success]
    rfl
  rw [ofMembers, if_pos accepted]

/-- The response to a refused viewer is rejected with its message. -/
theorem ofMembers_refusal {message : String} (different : message ≠ Wire.placeholder) :
    ofMembers (Response.refusal message).toMembers = .ok (.rejected none (some message)) := by
  have rejected : saysAccepted (Response.refusal message).toMembers = false := by
    rw [saysAccepted, Response.toMembers, get?_login]
    rfl
  have reason : remark (Response.refusal message).toMembers "reason" = none := by
    rw [remark, Response.toMembers, get?_reason]
  have said : remark (Response.refusal message).toMembers "message" = some message := by
    rw [remark, Response.toMembers, get?_message]
    exact if_neg different
  rw [ofMembers, if_neg (by rw [rejected]; exact Bool.false_ne_true), reason, said]

end ViewerLogin.Outcome
