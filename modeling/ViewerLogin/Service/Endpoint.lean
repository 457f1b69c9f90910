import ViewerLogin.Call.Basic
import ViewerLogin.Request.Canonical
import ViewerLogin.Response.Canonical
import ViewerLogin.Service.Basic

/-!
# The endpoint

Viewers post calls to the endpoint. Every body gets an answer with a status: the size of the
body is checked first, then whether it is a call, then which, then what it asks. Bodies are taken
whole, as the transport hands them over. The transport itself is left out, and with it the limit of
2 MiB that it has by default.
-/

namespace ViewerLogin

namespace Call

def loginMethod : String := "login_to_simulator"

def echoMethod : String := "echo"

/-! ## Faults -/

/-- Why a call gets no reply. A refused login is a reply and none of these. -/
inductive Fault where
  | tooLarge
  | unreadable
  | noParameters
  | badRequest (error : Request.Error)
  | refused (refusal : Refusal)
  | unknownMethod (method : String)
  deriving DecidableEq, Repr

namespace Fault

def status : Fault → Nat
  | .tooLarge => 413
  | .unreadable | .noParameters | .badRequest _ | .refused _ => 400
  | .unknownMethod _ => 404

def message : Fault → String
  | .tooLarge => "payload too large"
  | .unreadable => "<bad call>"
  | .noParameters => "missing login parameters"
  | .badRequest error => error.message
  | .refused refusal => refusal.message
  | .unknownMethod method => "unknown method '" ++ method ++ "'"

end Fault

end Call

/-! ## Answers -/

structure Answer where
  status : Nat
  body : Json
  deriving DecidableEq, Repr

namespace Answer

def ofReply (params : List Json) : Answer := ⟨200, (Reply.mk params).toJson⟩

def ofFault (fault : Call.Fault) : Answer :=
  ⟨fault.status, .object [("error", .text fault.message)]⟩

def ofResult : Except Call.Fault (List Json) → Answer
  | .ok params => ofReply params
  | .error fault => ofFault fault

def octets (answer : Answer) : List UInt8 := Text.Utf8.encode answer.body.write

end Answer

namespace Service

/-- An accepted viewer gets the blocks it asked for, a refused one gets all keys. -/
def replyMembers (request : Request) (response : Response) : Json.Members :=
  if response.isSuccess then response.toMembersWith request.selector.blocks
  else response.toMembers

def loginCall (service : Service) (draw : Draw) (params : List Json) :
    Except Call.Fault (List Json) × Service :=
  match params with
  | [] => (.error .noParameters, service)
  | parameters :: _ =>
      match Request.ofJson parameters with
      | .error error => (.error (.badRequest error), service)
      | .ok request =>
          match service.login draw request with
          | (.error refusal, after) => (.error (.refused refusal), after)
          | (.ok response, after) => (.ok [.map (replyMembers request response)], after)

def dispatch (service : Service) (draw : Draw) (call : Call) :
    Except Call.Fault (List Json) × Service :=
  if call.method = Call.loginMethod then service.loginCall draw call.params
  else if call.method = Call.echoMethod then (.ok call.params, service)
  else (.error (.unknownMethod call.method), service)

/-- The result of a body that was handed over whole, before it is put into an answer. -/
def receive (service : Service) (draw : Draw) (body : List UInt8) :
    Except Call.Fault (List Json) × Service :=
  if service.settings.maxRequestBytes < body.length then (.error .tooLarge, service)
  else
    match Call.ofOctets? body with
    | none => (.error .unreadable, service)
    | some call => service.dispatch draw call

def post (service : Service) (draw : Draw) (body : List UInt8) : Answer × Service :=
  let (result, after) := service.receive draw body
  (.ofResult result, after)

end Service

end ViewerLogin
