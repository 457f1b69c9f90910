import ViewerLogin.Proofs.Client.Answer
import ViewerLogin.Proofs.Client.Outcome
import ViewerLogin.Proofs.Response.Writable
import ViewerLogin.Proofs.Service.Attempt

/-!
# What a client sees of a login

A client learns exactly what the service decided. The request and the response each pass
through a map, a JSON text and its octets on their way, and come out as the two ends of the
exchange mean them.
-/

namespace ViewerLogin

open Json (Writable)

/-! ## Answers -/

namespace Client

theorem readLogin_ofFault (fault : Call.Fault) :
    readLogin (Answer.ofFault fault).status (Answer.ofFault fault).octets =
      .error (.failed Call.loginMethod fault.status (some fault.message)) := by
  rw [readLogin, readReply_ofFault]

theorem readLogin_ofReply {members : Json.Members}
    (writable : Writable Call.paramNesting (.map members)) :
    readLogin 200 (Answer.ofReply [.map members]).octets =
      (Outcome.ofMembers members).mapError .badResponse := by
  have read := readReply_ofReply Call.loginMethod (List.forall_mem_singleton.mpr writable)
  have succeeds : (Answer.ofReply [.map members]).status = 200 := rfl
  rw [readLogin, ← succeeds, read]
  rfl

/-! ## Calls -/

theorem ofOctets?_loginCall (request : Request) :
    Call.ofOctets? (loginCall request).toOctets = some (loginCall request) := by
  apply Call.ofOctets?_toOctets
  intro param member
  rw [List.mem_singleton.mp member]
  exact request.writable_toMembers 123

theorem receive_loginCall {service : Service} {request : Request}
    (small : ¬service.settings.maxRequestBytes < (loginCall request).toOctets.length)
    (draw : Draw) :
    service.receive draw (loginCall request).toOctets =
      service.loginCall draw [.map request.toMembers] := by
  rw [Service.receive, if_neg small, ofOctets?_loginCall]
  exact if_pos rfl

theorem loginCall_of_filled {service : Service} {request : Request}
    (filled : request.firstBlank? = none) (draw : Draw) :
    service.loginCall draw [.map request.toMembers] =
      Service.resultOfLogin request (service.login draw request) := by
  have decoded : Request.ofJson (.map request.toMembers) = .ok request :=
    Request.ofMembers_of_filled filled
  exact Service.loginCall_of_ofJson decoded service draw []

/-- The body that a client posts for a request carries that request. -/
theorem posted?_loginCall {service : Service} {request : Request}
    (small : ¬service.settings.maxRequestBytes < (loginCall request).toOctets.length)
    (filled : request.firstBlank? = none) :
    service.posted? (loginCall request).toOctets = some request := by
  have isLogin : (loginCall request).method = Call.loginMethod := rfl
  rw [Service.posted?, if_neg small, ofOctets?_loginCall, Option.bind_some, Call.request?,
    if_pos isLogin]
  exact congrArg Except.toOption (Request.ofMembers_of_filled filled)

def readResult (result : Except Call.Fault (List Json)) : Except Failure Outcome :=
  readLogin (Answer.ofResult result).status (Answer.ofResult result).octets

theorem login_eq_receive (service : Service) (draw : Draw) (request : Request) :
    login service draw request =
      (readResult (service.receive draw (loginCall request).toOctets).1,
        (service.receive draw (loginCall request).toOctets).2) := rfl

/-! ## Requests that reach the service -/

theorem message_ne_placeholder {refusal : Refusal}
    (different : ∀ field, refusal ≠ .malformed field) : refusal.message ≠ Wire.placeholder := by
  cases refusal with
  | malformed field => exact absurd rfl (different field)
  | _ => decide

theorem login_of_refused {service : Service} {request : Request} {refusal : Refusal}
    (small : ¬service.settings.maxRequestBytes < (loginCall request).toOctets.length)
    (filled : request.firstBlank? = none)
    (refused : service.authorize request = .error refusal) (draw : Draw) :
    login service draw request = (.ok (.rejected none (some refusal.message)), service) := by
  have different : refusal.message ≠ Wire.placeholder := message_ne_placeholder fun field same =>
    Service.authorize_ne_malformed filled field (same ▸ refused)
  have writable : Writable Call.paramNesting
      (.map (Response.refusal refusal.message).toMembers) :=
    @Response.writable_toMembersWith 122 (.refusal refusal.message) Block.all nofun
  rw [login_eq_receive, receive_loginCall small, loginCall_of_filled filled,
    Service.login_of_refused refused filled]
  have read := readLogin_ofReply writable
  rw [Outcome.ofMembers_refusal different] at read
  exact congrArg (·, service) read

theorem login_of_accepted {service : Service} {draw : Draw} {request : Request}
    {response : Response}
    (small : ¬service.settings.maxRequestBytes < (loginCall request).toOctets.length)
    (filled : request.firstBlank? = none)
    (accepted : (service.authenticate draw request).1 = .ok response)
    (success : response.login = some true) (noEvents : response.eventCategories = []) :
    login service draw request =
      (((Response.ofMembers (response.toMembersWith request.selector.blocks)).map
        .accepted).mapError .badResponse, (service.authenticate draw request).2) := by
  have writable : Writable Call.paramNesting
      (.map (response.toMembersWith request.selector.blocks)) :=
    @Response.writable_toMembersWith 122 response _ (by rw [noEvents]; exact nofun)
  have members : Service.replyMembers request response =
      response.toMembersWith request.selector.blocks :=
    if_pos (by rw [Response.isSuccess, success]; rfl)
  have read := readLogin_ofReply writable
  rw [Outcome.ofMembers_of_success success] at read
  rw [login_eq_receive, receive_loginCall small, loginCall_of_filled filled,
    Service.login_of_ok accepted, ← read, ← members]
  rfl

/-! ## The whole exchange -/

/-- A client is told of calls that are too large or malformed as failures, and otherwise sees
what `authenticate` decides: the message of a refusal, or what can be read of the response to
a viewer that is let in. The service is left as `authenticate` leaves it. -/
theorem login_eq_authenticate (service : Service) (draw : Draw) (request : Request) :
    login service draw request =
      if service.settings.maxRequestBytes < (loginCall request).toOctets.length then
        (.error (.failed Call.loginMethod 413 (some "payload too large")), service)
      else
        match request.firstBlank? with
        | some field =>
            (.error (.failed Call.loginMethod 400 (some field.complaint)), service)
        | none =>
            match service.authenticate draw request with
            | (.error refusal, _) =>
                (.ok (.rejected none (some refusal.message)), service)
            | (.ok response, after) =>
                (if .categories ∈ request.selector.blocks ∧
                    ∃ category ∈ service.grid.categories, category.name = Wire.placeholder then
                  .error (.badResponse (.missing "category_name"))
                else
                  .ok (.accepted (response.restrict request.selector.blocks).normal),
                after) := by
  split
  · next large =>
      have received : service.receive draw (loginCall request).toOctets =
          (.error .tooLarge, service) :=
        if_pos large
      rw [login_eq_receive, received]
      exact congrArg (·, service) (readLogin_ofFault .tooLarge)
  · next small =>
      cases blank : request.firstBlank? with
      | some field =>
          have refused : Request.ofJson (.map request.toMembers) = .error (.missing field) :=
            Request.ofMembers_of_blank blank
          have received : service.receive draw (loginCall request).toOctets =
              (.error (.badRequest (.missing field)), service) := by
            rw [receive_loginCall small]
            simp only [Service.loginCall, refused]
          rw [login_eq_receive, received]
          exact congrArg (·, service) (readLogin_ofFault (.badRequest (.missing field)))
      | none =>
          cases outcome : service.authorize request with
          | error refusal =>
              rw [Service.authenticate_of_refused outcome]
              exact login_of_refused small blank outcome draw
          | ok account =>
              have admits := (Service.authorize_eq_ok_iff service request account).mp outcome
              have accepted := Service.authenticate_of_admits admits draw
              have seen := login_of_accepted small blank (congrArg Prod.fst accepted) rfl rfl
              generalize welcome : service.grid.welcomeResponse draw account request.start
                account.everLoggedIn = response at accepted seen
              have categories : response.categories = service.grid.categories := by
                rw [← welcome]
                rfl
              rw [seen, accepted, ← categories]
              dsimp only
              split
              · next unnamed =>
                  rw [response.ofMembers_of_unnamed unnamed]
                  rfl
              · next named =>
                  rw [response.ofMembers_of_named named]
                  rfl

end Client

end ViewerLogin
