import ViewerLogin.Response.Basic

/-!
# Responses on the wire

A response is written as a map: the core fields under their keys, and the blocks asked for.
Reading goes through all fields in their order and fails with the first that fails.
-/

namespace ViewerLogin.Response

open Wire (Error)

/-! ## Writing -/

def writeField (response : Response) (field : Field) : String × Json :=
  (field.key, field.codec.write (response.value field))

def toMembersWith (response : Response) (blocks : List Block) : Json.Members :=
  .ofList ((CoreField.all.map Field.core ++ blocks.map Field.block).map response.writeField)

def toMembers (response : Response) : Json.Members := response.toMembersWith Block.all

/-! ## Reading -/

def readField (members : Json.Members) (field : Field) : Except Error field.Value :=
  field.codec.readAt members field.key

def firstError? (members : Json.Members) : List Field → Option Error
  | [] => none
  | field :: rest =>
      match readField members field with
      | .error error => some error
      | .ok _ => firstError? members rest

def ofMembers (members : Json.Members) : Except Error Response :=
  match firstError? members Field.readingOrder with
  | some error => .error error
  | none => .ok (ofFields fun field =>
      match readField members field with
      | .ok value => value
      | .error _ => unsetValue field)

def ofJson : Json → Except Error Response
  | .map members => ofMembers members
  | _ => .error .notAMap

end ViewerLogin.Response
