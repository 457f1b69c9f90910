import ViewerLogin.Client.Exchange

/-!
# Runs

What happens to a service is a list of steps. Each step has a result and leaves the service
for the next one.
-/

namespace ViewerLogin.Service

inductive Step where
  | register (account : Account)
  | find (first last : String)
  | recordLogin (first last : String)
  | set (loginsEnabled : Option Bool) (maxRequestBytes : Option Nat)
  | authenticate (draw : Draw) (request : Request)
  | login (draw : Draw) (request : Request)
  | post (draw : Draw) (body : List UInt8)
  | clientLogin (draw : Draw) (request : Request)
  | clientCall (draw : Draw) (call : Call)

inductive Result where
  | registered (account : Except Directory.RegistrationError Account)
  | found (account : Option Account)
  | recorded (before : Option Bool)
  | settings (settings : RunSettings)
  | response (response : Except Refusal Response)
  | answer (answer : Answer)
  | outcome (outcome : Except Client.Failure Outcome)
  | params (params : Except Client.Failure (List Json))

def step (service : Service) : Step → Result × Service
  | .register account =>
      match service.register account with
      | .ok after => (.registered (.ok account), after)
      | .error error => (.registered (.error error), service)
  | .find first last => (.found (service.directory.find? first last), service)
  | .recordLogin first last =>
      match service.directory.recordLogin first last with
      | some (before, directory) => (.recorded (some before), { service with directory })
      | none => (.recorded none, service)
  | .set loginsEnabled maxRequestBytes =>
      let settings : RunSettings :=
        { loginsEnabled := loginsEnabled.getD service.settings.loginsEnabled
          maxRequestBytes := maxRequestBytes.getD service.settings.maxRequestBytes }
      (.settings settings, { service with settings })
  | .authenticate draw request =>
      let (response, after) := service.authenticate draw request
      (.response response, after)
  | .login draw request =>
      let (response, after) := service.login draw request
      (.response response, after)
  | .post draw body =>
      let (answer, after) := service.post draw body
      (.answer answer, after)
  | .clientLogin draw request =>
      let (outcome, after) := Client.login service draw request
      (.outcome outcome, after)
  | .clientCall draw call =>
      let (params, after) := Client.call service draw call
      (.params params, after)

def run (service : Service) : List Step → List Result × Service
  | [] => ([], service)
  | first :: rest =>
      let (result, after) := service.step first
      let (results, last) := run after rest
      (result :: results, last)

def empty (grid : Grid) (settings : RunSettings) : Service := ⟨.empty, grid, settings⟩

end ViewerLogin.Service
