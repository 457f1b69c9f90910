import ViewerLogin.Response.Canonical

/-!
# Outcomes

A viewer that has been answered is either let in or turned away. Grids send only a few keys
when they turn a viewer away, so the rest is not even looked at then.
-/

namespace ViewerLogin

inductive Outcome where
  | accepted (response : Response)
  | rejected (reason message : Option String)
  deriving DecidableEq

namespace Outcome

def saysAccepted (members : Json.Members) : Bool :=
  match members.get? "login" with
  | some (.truth value) => value
  | some (.text text) => text = "true"
  | _ => false

def remark (members : Json.Members) (key : String) : Option String :=
  match members.get? key with
  | some (.text text) => if text = Wire.placeholder then none else some text
  | _ => none

def ofMembers (members : Json.Members) : Except Wire.Error Outcome :=
  if saysAccepted members then
    (Response.ofMembers members).map .accepted
  else
    .ok (.rejected (remark members "reason") (remark members "message"))

def isAccepted : Outcome → Bool
  | .accepted _ => true
  | .rejected _ _ => false

end Outcome

end ViewerLogin
