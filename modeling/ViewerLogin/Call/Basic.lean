import ViewerLogin.Json.Printer
import ViewerLogin.Json.Reader

/-!
# Calls and replies

A call names a method and carries parameters; a reply carries parameters. Both may be given as
a map of their members or as a list of their values. Members with other names are passed over
without a look at what they hold; a member given twice is an error.
-/

namespace ViewerLogin

structure Call where
  method : String
  params : List Json
  deriving DecidableEq, Repr

structure Reply where
  params : List Json
  deriving DecidableEq, Repr

namespace Call

/-- The call and the list of its parameters are two of the levels of nesting. -/
def paramNesting : Nat := Json.nestingLimit - 2

/-! ## Parts -/

def readMethod? : Tree → Option String
  | .text pieces => Piece.text? pieces
  | _ => none

def readParams? : Tree → Option (List Json)
  | .list items => Json.itemsOfTrees? paramNesting items
  | _ => none

structure Parts where
  method : Option String
  params : Option (List Json)

namespace Parts

def empty : Parts := ⟨none, none⟩

def add? (parts : Parts) (key : String) (value : Tree) : Option Parts :=
  if key = "methodName" then
    match parts.method with
    | some _ => none
    | none => (readMethod? value).map fun method => { parts with method := some method }
  else if key = "params" then
    match parts.params with
    | some _ => none
    | none => (readParams? value).map fun params => { parts with params := some params }
  else
    some parts

def ofMembers? (parts : Parts) : List (List Piece × Tree) → Option Parts
  | [] => some parts
  | (key, value) :: rest =>
      (Piece.text? key).bind fun key =>
        (parts.add? key value).bind fun parts => parts.ofMembers? rest

end Parts

/-! ## Reading calls -/

def ofTree? : Tree → Option Call
  | .map members =>
      (Parts.empty.ofMembers? members).bind fun parts =>
        parts.method.map fun method => ⟨method, parts.params.getD []⟩
  | .list [method] => (readMethod? method).map fun method => ⟨method, []⟩
  | .list [method, params] =>
      (readMethod? method).bind fun method =>
        (readParams? params).map fun params => ⟨method, params⟩
  | _ => none

def ofOctets? (octets : List UInt8) : Option Call :=
  (Tree.ofSymbols? (Text.Utf8.decode octets)).bind ofTree?

/-! ## Writing calls -/

def toJson (call : Call) : Json :=
  .object [("methodName", .text call.method), ("params", .list call.params)]

def toOctets (call : Call) : List UInt8 := Text.Utf8.encode call.toJson.write

end Call

namespace Reply

/-! ## Replies -/

def addMember? (params : Option (List Json)) (key : String) (value : Tree) :
    Option (Option (List Json)) :=
  if key = "params" then
    match params with
    | some _ => none
    | none => (Call.readParams? value).map some
  else
    some params

def ofMembers? (params : Option (List Json)) :
    List (List Piece × Tree) → Option (Option (List Json))
  | [] => some params
  | (key, value) :: rest =>
      (Piece.text? key).bind fun key =>
        (addMember? params key value).bind fun params => ofMembers? params rest

def ofTree? : Tree → Option Reply
  | .map members => (ofMembers? none members).bind fun params => params.map Reply.mk
  | .list [params] => (Call.readParams? params).map Reply.mk
  | _ => none

def ofOctets? (octets : List UInt8) : Option Reply :=
  (Tree.ofSymbols? (Text.Utf8.decode octets)).bind ofTree?

def toJson (reply : Reply) : Json := .object [("params", .list reply.params)]

end Reply

end ViewerLogin
