import ViewerLogin.Proofs.Request.Reading
import ViewerLogin.Proofs.Service.Attempt

/-!
# What a posted body demands

A body demands a login or an echo, or it is at fault. The settings alone decide which of these
it is; no account has a part in it. The service then only has to do what is demanded, and a
login that is demanded never comes back as malformed.
-/

namespace ViewerLogin

/-- What a body that is not at fault asks for. -/
inductive Demand where
  | login (request : Request)
  | echo (params : List Json)

def Call.demand (call : Call) : Except Call.Fault Demand :=
  if call.method = loginMethod then
    match call.params with
    | [] => .error .noParameters
    | parameters :: _ =>
        match Request.ofJson parameters with
        | .error error => .error (.badRequest error)
        | .ok request => .ok (.login request)
  else if call.method = echoMethod then .ok (.echo call.params)
  else .error (.unknownMethod call.method)

def RunSettings.demand (settings : RunSettings) (body : List UInt8) : Except Call.Fault Demand :=
  if settings.maxRequestBytes < body.length then .error .tooLarge
  else
    match Call.ofOctets? body with
    | none => .error .unreadable
    | some call => call.demand

inductive RunSettings.Judges (settings : RunSettings) (body : List UInt8) :
    Except Call.Fault Demand → Prop where
  | tooLarge (large : settings.maxRequestBytes < body.length) :
      settings.Judges body (.error .tooLarge)
  | unreadable (small : ¬settings.maxRequestBytes < body.length)
      (noCall : Call.ofOctets? body = none) : settings.Judges body (.error .unreadable)
  | noParameters (small : ¬settings.maxRequestBytes < body.length) (call : Call)
      (read : Call.ofOctets? body = some call) (isLogin : call.method = Call.loginMethod)
      (empty : call.params = []) : settings.Judges body (.error .noParameters)
  | badRequest (small : ¬settings.maxRequestBytes < body.length) (call : Call)
      (read : Call.ofOctets? body = some call) (isLogin : call.method = Call.loginMethod)
      (parameters : Json) (rest : List Json) (given : call.params = parameters :: rest)
      (error : Request.Error) (failed : Request.ofJson parameters = .error error) :
      settings.Judges body (.error (.badRequest error))
  | login (small : ¬settings.maxRequestBytes < body.length) (call : Call)
      (read : Call.ofOctets? body = some call) (isLogin : call.method = Call.loginMethod)
      (parameters : Json) (rest : List Json) (given : call.params = parameters :: rest)
      (request : Request) (decoded : Request.ofJson parameters = .ok request) :
      settings.Judges body (.ok (.login request))
  | echo (small : ¬settings.maxRequestBytes < body.length) (call : Call)
      (read : Call.ofOctets? body = some call) (isEcho : call.method = Call.echoMethod) :
      settings.Judges body (.ok (.echo call.params))
  | unknownMethod (small : ¬settings.maxRequestBytes < body.length) (call : Call)
      (read : Call.ofOctets? body = some call) (notLogin : call.method ≠ Call.loginMethod)
      (notEcho : call.method ≠ Call.echoMethod) :
      settings.Judges body (.error (.unknownMethod call.method))

theorem RunSettings.judges_demand (settings : RunSettings) (body : List UInt8) :
    settings.Judges body (settings.demand body) := by
  unfold demand
  split
  · next large => exact .tooLarge large
  · next small =>
      cases read : Call.ofOctets? body with
      | none => exact .unreadable small read
      | some call =>
          simp only [Call.demand]
          split
          · next isLogin =>
              cases given : call.params with
              | nil => exact .noParameters small call read isLogin given
              | cons parameters rest =>
                  cases outcome : Request.ofJson parameters with
                  | error error =>
                      simp only [outcome]
                      exact .badRequest small call read isLogin parameters rest given error outcome
                  | ok request =>
                      simp only [outcome]
                      exact .login small call read isLogin parameters rest given request outcome
          · next notLogin =>
              split
              · next isEcho => exact .echo small call read isEcho
              · next notEcho => exact .unknownMethod small call read notLogin notEcho

namespace Service

def fulfil (service : Service) (draw : Draw) :
    Except Call.Fault Demand → Except Call.Fault (List Json) × Service
  | .error fault => (.error fault, service)
  | .ok (.echo params) => (.ok params, service)
  | .ok (.login request) => resultOfLogin request (service.login draw request)

theorem dispatch_eq_fulfil (service : Service) (draw : Draw) (call : Call) :
    service.dispatch draw call = service.fulfil draw call.demand := by
  unfold dispatch Call.demand
  split
  · cases given : call.params with
    | nil => rfl
    | cons parameters rest =>
        cases readable : Request.ofJson parameters with
        | error error =>
            simp only [loginCall, readable]
            rfl
        | ok request =>
            simp only [readable]
            exact loginCall_of_ofJson readable service draw rest
  · split <;> rfl

theorem receive_eq_fulfil (service : Service) (draw : Draw) (body : List UInt8) :
    service.receive draw body = service.fulfil draw (service.settings.demand body) := by
  unfold receive RunSettings.demand
  split
  · rfl
  · cases Call.ofOctets? body with
    | none => rfl
    | some call => exact dispatch_eq_fulfil service draw call

theorem post_eq_fulfil (service : Service) (draw : Draw) (body : List UInt8) :
    service.post draw body =
      (.ofResult (service.fulfil draw (service.settings.demand body)).1,
        (service.fulfil draw (service.settings.demand body)).2) := by
  rw [← receive_eq_fulfil]
  rfl

theorem request?_eq_some_iff {call : Call} {request : Request} :
    call.request? = some request ↔ call.demand = .ok (.login request) := by
  unfold Call.request? Call.demand
  split
  · cases call.params with
    | nil => exact ⟨nofun, nofun⟩
    | cons parameters rest =>
        cases readable : Request.ofJson parameters with
        | error error => simp [readable, Except.toOption]
        | ok found => simp [readable, Except.toOption]
  · split <;> exact ⟨nofun, nofun⟩

theorem posted?_eq_some_iff {service : Service} {body : List UInt8} {request : Request} :
    service.posted? body = some request ↔
      service.settings.demand body = .ok (.login request) := by
  unfold posted? RunSettings.demand
  split
  · exact ⟨nofun, nofun⟩
  · cases Call.ofOctets? body with
    | none => exact ⟨nofun, nofun⟩
    | some call => exact request?_eq_some_iff

/-! ## Requests that reach the service -/

theorem firstBlank?_of_posted? {service : Service} {body : List UInt8} {request : Request}
    (posted : service.posted? body = some request) : request.firstBlank? = none := by
  have judged := service.settings.judges_demand body
  rw [posted?_eq_some_iff.mp posted] at judged
  cases judged with
  | login _ _ _ _ _ _ _ _ decoded => exact Request.firstBlank?_of_ofJson decoded

end Service

end ViewerLogin
