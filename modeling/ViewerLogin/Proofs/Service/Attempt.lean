import ViewerLogin.Proofs.Service.Admission
import ViewerLogin.Service.Run

/-!
# Attempts to log in

A step may be an attempt to log in, either directly or by a posted call that can be read.
Whatever way it took, an attempt changes the service as authentication does; the other steps
change no account.
-/

namespace ViewerLogin

def Call.request? (call : Call) : Option Request :=
  if call.method = Call.loginMethod then
    match call.params with
    | [] => none
    | parameters :: _ => (Request.ofJson parameters).toOption
  else
    none

namespace Service

/-! ## Posted requests -/

/-- The request in a posted body, unless the body is too large or holds none. -/
def posted? (service : Service) (body : List UInt8) : Option Request :=
  if service.settings.maxRequestBytes < body.length then none
  else (Call.ofOctets? body).bind Call.request?

def resultOfLogin (request : Request) :
    Except Refusal Response × Service → Except Call.Fault (List Json) × Service
  | (.error refusal, after) => (.error (.refused refusal), after)
  | (.ok response, after) => (.ok [.map (replyMembers request response)], after)

theorem loginCall_of_ofJson {parameters : Json} {request : Request}
    (decoded : Request.ofJson parameters = .ok request) (service : Service) (draw : Draw)
    (rest : List Json) :
    service.loginCall draw (parameters :: rest) =
      resultOfLogin request (service.login draw request) := by
  unfold loginCall
  simp only [decoded]
  generalize service.login draw request = answer
  rcases answer with ⟨result, after⟩
  cases result with
  | error refusal => rfl
  | ok response => rfl

theorem dispatch_of_request {service : Service} {call : Call} {request : Request}
    (carried : call.request? = some request) (draw : Draw) :
    service.dispatch draw call = resultOfLogin request (service.login draw request) := by
  unfold Call.request? at carried
  split at carried
  · next isLogin =>
      split at carried
      · contradiction
      · next parameters rest given =>
          rw [dispatch, if_pos isLogin, given]
          cases readable : Request.ofJson parameters with
          | error error =>
              rw [readable] at carried
              contradiction
          | ok found =>
              rw [readable] at carried
              injection carried with same
              rw [← same]
              exact loginCall_of_ofJson readable service draw rest
  · contradiction

theorem dispatch_snd_of_no_request {service : Service} {call : Call}
    (carries : call.request? = none) (draw : Draw) : (service.dispatch draw call).2 = service := by
  rw [dispatch]
  split
  · next isLogin =>
      rw [Call.request?, if_pos isLogin] at carries
      unfold loginCall
      cases given : call.params with
      | nil => rfl
      | cons parameters rest =>
          rw [given] at carries
          cases readable : Request.ofJson parameters with
          | error error => simp only [readable]
          | ok found =>
              simp only [readable] at carries
              contradiction
  · split <;> rfl

theorem receive_of_posted {service : Service} {body : List UInt8} {request : Request}
    (posted : service.posted? body = some request) (draw : Draw) :
    service.receive draw body = resultOfLogin request (service.login draw request) := by
  unfold posted? at posted
  split at posted
  · contradiction
  · next small =>
      rcases Option.bind_eq_some_iff.mp posted with ⟨call, readable, carried⟩
      rw [receive, if_neg small, readable]
      exact dispatch_of_request carried draw

theorem receive_snd_of_not_posted {service : Service} {body : List UInt8}
    (posted : service.posted? body = none) (draw : Draw) :
    (service.receive draw body).2 = service := by
  rw [receive]
  split
  · rfl
  · next small =>
      rw [posted?, if_neg small] at posted
      cases readable : Call.ofOctets? body with
      | none => rfl
      | some call =>
          rw [readable] at posted
          exact dispatch_snd_of_no_request posted draw

theorem resultOfLogin_snd (request : Request) (answer : Except Refusal Response × Service) :
    (resultOfLogin request answer).2 = answer.2 := by
  rcases answer with ⟨result, after⟩
  cases result <;> rfl

/-! ## Attempts -/

/-- The attempt to log in that a step makes, if it makes one. -/
def attempt? (service : Service) : Step → Option (Draw × Request)
  | .authenticate draw request | .login draw request => some (draw, request)
  | .post draw body => (service.posted? body).map fun request => (draw, request)
  | .clientLogin draw request =>
      (service.posted? (Client.loginCall request).toOctets).map fun request => (draw, request)
  | .clientCall draw call =>
      (service.posted? call.toOctets).map fun request => (draw, request)
  | .register _ | .find _ _ | .recordLogin _ _ | .set _ _ => none

def acceptance (request : Request) (response : Response) : Answer :=
  .ofReply [.map (replyMembers request response)]

def report (request : Request) (response : Response) : Step → Result
  | .post _ _ => .answer (acceptance request response)
  | .clientLogin _ _ =>
      .outcome (Client.readLogin 200 (acceptance request response).octets)
  | .clientCall _ call =>
      .params (Client.readReply call.method 200 (acceptance request response).octets)
  | _ => .response (.ok response)

theorem post_snd_of_posted {service : Service} {body : List UInt8} {request : Request}
    (posted : service.posted? body = some request) (draw : Draw) :
    (service.post draw body).2 = (service.authenticate draw request).2 := by
  rw [← login_snd, ← resultOfLogin_snd request, ← receive_of_posted posted]
  rfl

theorem post_snd_of_not_posted {service : Service} {body : List UInt8}
    (posted : service.posted? body = none) (draw : Draw) :
    (service.post draw body).2 = service :=
  receive_snd_of_not_posted posted draw

theorem post_of_accepted {service : Service} {draw : Draw} {body : List UInt8}
    {request : Request} {response : Response} (posted : service.posted? body = some request)
    (accepted : (service.authenticate draw request).1 = .ok response) :
    (service.post draw body).1 = acceptance request response := by
  rw [post, receive_of_posted posted, login_of_ok accepted]
  rfl

theorem step_snd_of_attempt {service : Service} {step : Step} {draw : Draw} {request : Request}
    (attempted : service.attempt? step = some (draw, request)) :
    (service.step step).2 = (service.authenticate draw request).2 := by
  cases step with
  | authenticate _ _ =>
      injection attempted with same
      rcases Prod.mk.inj same with ⟨rfl, rfl⟩
      rfl
  | login _ _ =>
      injection attempted with same
      rcases Prod.mk.inj same with ⟨rfl, rfl⟩
      exact login_snd _ _ _
  | post _ _ | clientLogin _ _ | clientCall _ _ =>
      rcases Option.map_eq_some_iff.mp attempted with ⟨carried, posted, same⟩
      rcases Prod.mk.inj same with ⟨rfl, rfl⟩
      exact post_snd_of_posted posted _
  | _ => contradiction

theorem step_fst_of_accepted {service : Service} {step : Step} {draw : Draw} {request : Request}
    {response : Response} (attempted : service.attempt? step = some (draw, request))
    (accepted : (service.authenticate draw request).1 = .ok response) :
    (service.step step).1 = report request response step := by
  cases step with
  | authenticate _ _ =>
      injection attempted with same
      rcases Prod.mk.inj same with ⟨rfl, rfl⟩
      exact congrArg Result.response accepted
  | login _ _ =>
      injection attempted with same
      rcases Prod.mk.inj same with ⟨rfl, rfl⟩
      rw [step, login_of_ok accepted]
      rfl
  | post _ _ =>
      rcases Option.map_eq_some_iff.mp attempted with ⟨carried, posted, same⟩
      rcases Prod.mk.inj same with ⟨rfl, rfl⟩
      exact congrArg Result.answer (post_of_accepted posted accepted)
  | clientLogin _ _ =>
      rcases Option.map_eq_some_iff.mp attempted with ⟨carried, posted, same⟩
      rcases Prod.mk.inj same with ⟨rfl, rfl⟩
      have answered := post_of_accepted posted accepted
      exact congrArg (fun answer => Result.outcome (Client.readLogin answer.status answer.octets))
        answered
  | clientCall _ call =>
      rcases Option.map_eq_some_iff.mp attempted with ⟨carried, posted, same⟩
      rcases Prod.mk.inj same with ⟨rfl, rfl⟩
      have answered := post_of_accepted posted accepted
      exact congrArg
        (fun answer => Result.params (Client.readReply call.method answer.status answer.octets))
        answered
  | _ => contradiction

end Service

end ViewerLogin
