import ViewerLogin.Client.Outcome
import ViewerLogin.Client.Status
import ViewerLogin.Service.Endpoint

/-!
# Exchanges

A client posts a call and makes what it can of the answer. The two halves are functions of
their own, so that any endpoint may stand between them.
-/

namespace ViewerLogin.Client

/-! ## Failures -/

inductive Failure where
  | unreachable (url : String)
  | failed (method : String) (status : Nat) (detail : Option String)
  | unreadable (method : String)
  | noResponse
  | badResponse (cause : Wire.Error)
  deriving DecidableEq, Repr

namespace Failure

def message : Failure → String
  | .unreachable url => "Failed to reach " ++ url
  | .failed method status detail =>
      method ++ " failed with " ++ Status.text status ++ ": " ++ detail.getD "no detail"
  | .unreadable method => "Failed to parse " ++ method ++ " reply"
  | .noResponse => "login reply carried no response map"
  | .badResponse _ => "Failed to decode login response"

def cause? : Failure → Option Wire.Error
  | .badResponse cause => some cause
  | _ => none

end Failure

/-! ## Reading answers -/

def detail? (body : List UInt8) : Option String :=
  match Json.ofOctets? body with
  | some (.map members) =>
      match Json.Members.get? members "error" with
      | some (.text text) => some text
      | _ => none
  | _ => none

def readReply (method : String) (status : Nat) (body : List UInt8) :
    Except Failure (List Json) :=
  if Status.isSuccess status then
    match Reply.ofOctets? body with
    | some reply => .ok reply.params
    | none => .error (.unreadable method)
  else
    .error (.failed method status (detail? body))

def readOutcome : List Json → Except Failure Outcome
  | .map members :: _ => (Outcome.ofMembers members).mapError .badResponse
  | _ => .error .noResponse

/-! ## Calls -/

def loginCall (request : Request) : Call := ⟨Call.loginMethod, [.map request.toMembers]⟩

def echoCall (params : List Json) : Call := ⟨Call.echoMethod, params⟩

def readLogin (status : Nat) (body : List UInt8) : Except Failure Outcome :=
  match readReply Call.loginMethod status body with
  | .error failure => .error failure
  | .ok params => readOutcome params

/-! ## Exchanges with a service -/

def call (service : Service) (draw : Draw) (call : Call) :
    Except Failure (List Json) × Service :=
  let (answer, after) := service.post draw call.toOctets
  (readReply call.method answer.status answer.octets, after)

def echo (service : Service) (draw : Draw) (params : List Json) :
    Except Failure (List Json) × Service :=
  Client.call service draw (echoCall params)

def login (service : Service) (draw : Draw) (request : Request) :
    Except Failure Outcome × Service :=
  let (answer, after) := service.post draw (loginCall request).toOctets
  (readLogin answer.status answer.octets, after)

end ViewerLogin.Client
