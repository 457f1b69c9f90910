import ViewerLogin.Proofs.Client.Login
import ViewerLogin.Proofs.Response.Keys
import ViewerLogin.Proofs.Service.Demand
import ViewerLogin.Proofs.Service.History

/-!
# Replies to posted bodies

The status of an answer tells how far a body got: past the limit, read as a call, with a method
that is known. A login that got so far is answered with one map, and only if it is accepted
does anything change.
-/

namespace ViewerLogin

namespace Call

def Malformed (body : List UInt8) : Prop :=
  ofOctets? body = none ∨
    ∃ call, ofOctets? body = some call ∧ call.method = loginMethod ∧
      (call.params = [] ∨ ∃ parameters rest error, call.params = parameters :: rest ∧
        Request.ofJson parameters = .error error)

def Unknown (body : List UInt8) : Prop :=
  ∃ call, ofOctets? body = some call ∧ call.method ≠ loginMethod ∧ call.method ≠ echoMethod

end Call

namespace Service

def TooLarge (service : Service) (body : List UInt8) : Prop :=
  service.settings.maxRequestBytes < body.length

/-! ## Logins that reach the service -/

/-- A request without blank fields always gets a response, which is either what authentication
gives or the refusal. -/
theorem login_of_filled {service : Service} {request : Request}
    (filled : request.firstBlank? = none) (draw : Draw) :
    (∃ response, (service.authenticate draw request).1 = .ok response ∧
      service.login draw request = (.ok response, (service.authenticate draw request).2)) ∨
    (∃ refusal, (service.authenticate draw request).1 = .error refusal ∧
      service.login draw request = (.ok (.refusal refusal.message), service)) := by
  rcases service.authenticate_cases draw request with
    ⟨refusal, outcome, refused⟩ | ⟨account, _, admitted⟩
  · exact .inr ⟨refusal, congrArg Prod.fst refused, login_of_refused outcome filled draw⟩
  · have accepted := congrArg Prod.fst admitted
    exact .inl ⟨_, accepted, login_of_ok accepted⟩

inductive Answered (service : Service) (draw : Draw) (request : Request) (members : Json.Members)
    (after : Service) : Prop where
  | accepted (response : Response) (account : Account)
      (authenticated : (service.authenticate draw request).1 = .ok response)
      (login : members.get? "login" = some (.text "true"))
      (keys : (members.map Prod.fst).Perm
        (CoreField.all.map CoreField.key ++ request.selector.blocks.map Block.key))
      (count : members.length = 21 + request.selector.blocks.length)
      (found : service.directory.find? request.first request.last = some account)
      (changed : ∀ key, after.directory.stored? key =
        if key = account.key then some { account with everLoggedIn := true }
        else service.directory.stored? key)
      (rest : after = { service with directory := after.directory })
  | refused (refusal : Refusal)
      (authenticated : (service.authenticate draw request).1 = .error refusal)
      (written : members =
        (Response.unset.toMembers.insert "login" (.text "false")).insert "message"
          (.text refusal.message))
      (same : after = service)

theorem answered_of_accepted {service : Service} {draw : Draw} {request : Request}
    {response : Response} (accepted : (service.authenticate draw request).1 = .ok response) :
    service.Answered draw request (replyMembers request response)
      (service.authenticate draw request).2 := by
  rcases (exists_authenticate_eq_ok_iff service draw request).mp ⟨response, accepted⟩ with
    ⟨account, admits⟩
  have outcome := authenticate_of_admits admits draw
  have ownKey : account.key = Account.keyOf request.first request.last :=
    Directory.key_of_stored? admits.stored
  have success : response.login = some true := by
    rw [outcome] at accepted
    injection accepted with same
    rw [← same]
    rfl
  have written : replyMembers request response =
      response.toMembersWith request.selector.blocks :=
    if_pos (by rw [Response.isSuccess, success]; rfl)
  have keys := response.keys_toMembersWith_perm
    (show request.selector.blocks.Nodup from Block.nodup_all.filter _)
  rw [← written] at keys
  refine .accepted response account accepted ?_ keys ?_ admits.stored ?_ ?_
  · rw [written]
    have sent : Field.core .login ∈ Field.sent request.selector.blocks :=
      Field.core_mem_sent .login _
    refine (response.get?_toMembersWith_of_mem sent).trans ?_
    change some (Wire.Codec.truth.write response.login) = _
    rw [success]
    rfl
  · have length := keys.length_eq
    rw [List.length_map, List.length_append, List.length_map, List.length_map] at length
    exact length
  · intro key
    rw [outcome, Directory.stored?_markAt, ownKey]
    split
    · next atKey =>
        rw [atKey, admits.stored]
        rfl
    · rw [Option.map_id']
  · rw [outcome]

theorem answered_of_refused {service : Service} {draw : Draw} {request : Request}
    {refusal : Refusal} (refused : (service.authenticate draw request).1 = .error refusal) :
    service.Answered draw request (replyMembers request (.refusal refusal.message)) service :=
  .refused refusal refused (Response.toMembers_refusal refusal.message) rfl

/-- A login that is demanded is answered with one map. -/
theorem post_of_posted {service : Service} {body : List UInt8} {request : Request}
    (posted : service.posted? body = some request) (draw : Draw) :
    ∃ members, (service.post draw body).1 = .ofReply [.map members] ∧
      service.Answered draw request members (service.post draw body).2 := by
  have received := receive_of_posted posted draw
  rcases login_of_filled (firstBlank?_of_posted? posted) draw with
    ⟨response, accepted, answer⟩ | ⟨refusal, refused, answer⟩
  · rw [post, received, answer]
    exact ⟨_, rfl, answered_of_accepted accepted⟩
  · rw [post, received, answer]
    exact ⟨_, rfl, answered_of_refused refused⟩

/-- No fault of a posted body comes from the service itself. -/
theorem receive_ne_refused (service : Service) (draw : Draw) (body : List UInt8)
    (refusal : Refusal) : (service.receive draw body).1 ≠ .error (.refused refusal) := by
  rw [receive_eq_fulfil]
  have judged := service.settings.judges_demand body
  generalize service.settings.demand body = demand at judged
  cases judged with
  | login _ _ _ _ _ _ _ request decoded =>
      rcases login_of_filled (Request.firstBlank?_of_ofJson decoded) draw with
        ⟨_, _, answer⟩ | ⟨_, _, answer⟩
      · rw [fulfil, answer]
        exact nofun
      · rw [fulfil, answer]
        exact nofun
  | _ => exact nofun

/-! ## Statuses -/

/-- How far a body gets decides the status of its answer. -/
theorem status_post (service : Service) (draw : Draw) (body : List UInt8) :
    let status := (service.post draw body).1.status
    (status = 413 ↔ service.TooLarge body) ∧
      (status = 400 ↔ ¬service.TooLarge body ∧ Call.Malformed body) ∧
      (status = 404 ↔ ¬service.TooLarge body ∧ Call.Unknown body) ∧
      (status = 200 ↔ ¬service.TooLarge body ∧ ¬Call.Malformed body ∧ ¬Call.Unknown body) := by
  intro status
  have isStatus : status =
      (Answer.ofResult (service.fulfil draw (service.settings.demand body)).1).status :=
    congrArg (fun answer => (Prod.fst answer).status) (post_eq_fulfil service draw body)
  have judged := service.settings.judges_demand body
  generalize service.settings.demand body = demand at judged isStatus
  cases judged with
  | tooLarge large =>
      have is413 : status = 413 := isStatus
      have tooLarge : service.TooLarge body := large
      simp [is413, tooLarge]
  | unreadable small noCall =>
      have is400 : status = 400 := isStatus
      have within : ¬service.TooLarge body := small
      have malformed : Call.Malformed body := .inl noCall
      have known : ¬Call.Unknown body := by simp [Call.Unknown, noCall]
      simp [is400, within, malformed, known]
  | noParameters small call read isLogin empty =>
      have is400 : status = 400 := isStatus
      have within : ¬service.TooLarge body := small
      have malformed : Call.Malformed body := .inr ⟨call, read, isLogin, .inl empty⟩
      have known : ¬Call.Unknown body := by simp [Call.Unknown, read, isLogin]
      simp [is400, within, malformed, known]
  | badRequest small call read isLogin parameters rest given error failed =>
      have is400 : status = 400 := isStatus
      have within : ¬service.TooLarge body := small
      have malformed : Call.Malformed body :=
        .inr ⟨call, read, isLogin, .inr ⟨parameters, rest, error, given, failed⟩⟩
      have known : ¬Call.Unknown body := by simp [Call.Unknown, read, isLogin]
      simp [is400, within, malformed, known]
  | login small call read isLogin parameters rest given request decoded =>
      have is200 : status = 200 := by
        rcases login_of_filled (Request.firstBlank?_of_ofJson decoded) draw with
          ⟨_, _, answer⟩ | ⟨_, _, answer⟩ <;>
        · rw [isStatus, fulfil, answer]
          rfl
      have within : ¬service.TooLarge body := small
      have wellFormed : ¬Call.Malformed body := by
        simp [Call.Malformed, read, isLogin, given, decoded]
      have known : ¬Call.Unknown body := by simp [Call.Unknown, read, isLogin]
      simp [is200, within, wellFormed, known]
  | echo small call read isEcho =>
      have is200 : status = 200 := isStatus
      have within : ¬service.TooLarge body := small
      have notLogin : call.method ≠ Call.loginMethod := by rw [isEcho]; decide
      have wellFormed : ¬Call.Malformed body := by simp [Call.Malformed, read, notLogin]
      have known : ¬Call.Unknown body := by simp [Call.Unknown, read, isEcho]
      simp [is200, within, wellFormed, known]
  | unknownMethod small call read notLogin notEcho =>
      have is404 : status = 404 := isStatus
      have within : ¬service.TooLarge body := small
      have wellFormed : ¬Call.Malformed body := by simp [Call.Malformed, read, notLogin]
      have unknown : Call.Unknown body := ⟨call, read, notLogin, notEcho⟩
      simp [is404, within, wellFormed, unknown]

/-! ## Whole replies -/

theorem post_snd_of_not_accepted {service : Service} {draw : Draw} {body : List UInt8}
    (notAccepted : ∀ request response, service.posted? body = some request →
      (service.authenticate draw request).1 ≠ .ok response) :
    (service.post draw body).2 = service := by
  cases posted : service.posted? body with
  | none => exact post_snd_of_not_posted posted draw
  | some request =>
      rw [post_snd_of_posted posted]
      rcases service.authenticate_cases draw request with ⟨_, _, refused⟩ | ⟨_, _, admitted⟩
      · rw [refused]
      · exact absurd (congrArg Prod.fst admitted) (notAccepted request _ posted)

/-- The status of every answer, the one map that a login is answered with, and what changes:
nothing, unless the login is accepted, and then the flag of one account. The service itself
finds no fault with a request that was read. -/
theorem post_reply (service : Service) (draw : Draw) (body : List UInt8) :
    let answer := (service.post draw body).1
    let after := (service.post draw body).2
    ((answer.status = 413 ↔ service.TooLarge body) ∧
      (answer.status = 400 ↔ ¬service.TooLarge body ∧ Call.Malformed body) ∧
      (answer.status = 404 ↔ ¬service.TooLarge body ∧ Call.Unknown body) ∧
      (answer.status = 200 ↔
        ¬service.TooLarge body ∧ ¬Call.Malformed body ∧ ¬Call.Unknown body)) ∧
    (∀ refusal, (service.receive draw body).1 ≠ .error (.refused refusal)) ∧
    (∀ call, Call.ofOctets? body = some call → call.method = Call.loginMethod →
      answer.status = 200 →
      ∃ parameters rest request members, call.params = parameters :: rest ∧
        Request.ofJson parameters = .ok request ∧ answer = .ofReply [.map members] ∧
        service.Answered draw request members after) ∧
    ((∀ request response, service.posted? body = some request →
        (service.authenticate draw request).1 ≠ .ok response) →
      after = service) := by
  intro answer after
  have statuses := service.status_post draw body
  refine ⟨statuses, service.receive_ne_refused draw body, ?_, post_snd_of_not_accepted⟩
  intro call read isLogin is200
  rcases statuses.2.2.2.mp is200 with ⟨small, wellFormed, _⟩
  cases given : call.params with
  | nil => exact absurd (.inr ⟨call, read, isLogin, .inl given⟩) wellFormed
  | cons parameters rest =>
      cases outcome : Request.ofJson parameters with
      | error error =>
          exact absurd (.inr ⟨call, read, isLogin, .inr ⟨_, _, _, given, outcome⟩⟩) wellFormed
      | ok request =>
          have within : ¬service.settings.maxRequestBytes < body.length := small
          have posted : service.posted? body = some request := by
            rw [posted?, if_neg within, read, Option.bind_some, Call.request?, if_pos isLogin, given]
            simp only [outcome]
            rfl
          rcases post_of_posted posted draw with ⟨members, reply, answered⟩
          exact ⟨parameters, rest, request, members, rfl, outcome, reply, answered⟩

theorem post_reply_resident :
    ∃ directory, Directory.empty.register resident = .ok directory ∧
      let service : Service := ⟨directory, .standard, .standard⟩
      let draw : Draw := ⟨.nil, .nil, .nil, 0, 0⟩
      let request : Request := .of "ruth" "linden" "secret" "home"
      let body := (Client.loginCall request).toOctets
      service.Admits request resident ∧ (service.post draw body).1.status = 200 ∧
        ∃ members, (service.post draw body).1 = .ofReply [.map members] ∧
          service.Answered draw request members (service.post draw body).2 := by
  rcases register_resident with ⟨directory, outcome⟩
  refine ⟨directory, outcome, ?_⟩
  intro service draw request body
  have filled : request.firstBlank? = none := by decide +kernel
  have small : ¬RunSettings.standard.maxRequestBytes < body.length := by decide +kernel
  have read : Call.ofOctets? body = some (Client.loginCall request) :=
    Client.ofOctets?_loginCall request
  have decoded : Request.ofJson (.map request.toMembers) = .ok request :=
    Request.ofMembers_of_filled filled
  have admits : service.Admits request resident :=
    { enabled := rfl
      filled := request.firstBlank?_eq_none_iff.mp filled
      stored := (Directory.stored?_register outcome _).trans (if_pos (by decide +kernel))
      passwd := rfl
      active := rfl }
  have wellFormed : ¬Call.Malformed body := by
    simp [Call.Malformed, read, Client.loginCall, decoded]
  have known : ¬Call.Unknown body := by
    simp [Call.Unknown, read, Client.loginCall]
  rcases post_reply service draw body with ⟨statuses, _, replies, _⟩
  have is200 := statuses.2.2.2.mpr ⟨small, wellFormed, known⟩
  rcases replies _ read rfl is200 with ⟨_, _, found, members, given, foundRead, reply, answered⟩
  cases given
  cases decoded.symm.trans foundRead
  exact ⟨admits, is200, members, reply, answered⟩

end Service

end ViewerLogin
