import ViewerLogin.Request.Selector
import ViewerLogin.Text.Blank
import ViewerLogin.Wire.Error

/-!
# Requests

What a viewer sends to be let in: whom it speaks for, where to start, what it is, and which
blocks it wants.
-/

namespace ViewerLogin

structure Request where
  first : String
  last : String
  /-- The password token, compared as it is. -/
  passwd : String
  start : String
  channel : Option String
  version : Option String
  platform : Option String
  platformString : Option String
  platformVersion : Option String
  mac : Option String
  id0 : Option String
  agreeToTos : Option Bool
  readCritical : Option Bool
  viewerDigest : Option String
  addressSize : Option String
  extendedErrors : Option String
  lastExecEvent : Option Int64
  lastExecDuration : Option String
  skipOptional : Option Bool
  selector : Selector
  deriving DecidableEq

namespace Request

/-! ## Building requests -/

def of (first last passwd start : String) : Request where
  first := first
  last := last
  passwd := passwd
  start := start
  channel := none
  version := none
  platform := none
  platformString := none
  platformVersion := none
  mac := none
  id0 := none
  agreeToTos := none
  readCritical := none
  viewerDigest := none
  addressSize := none
  extendedErrors := none
  lastExecEvent := none
  lastExecDuration := none
  skipOptional := none
  selector := .none

structure Client where
  channel : String
  version : String
  platform : String
  machine : String

def ofClient (client : Client) (first last passwd start : String)
    (agreeToTos readCritical : Bool) : Request :=
  { of first last passwd start with
    channel := client.channel
    version := client.version
    platform := client.platform
    platformString := client.machine
    agreeToTos := agreeToTos
    readCritical := readCritical
    selector := .all }

/-! ## Required fields -/

inductive RequiredField where
  | first
  | last
  | passwd
  | start
  deriving DecidableEq, Repr

namespace RequiredField

def all : List RequiredField := [.first, .last, .passwd, .start]

def key : RequiredField → String
  | .first => "first"
  | .last => "last"
  | .passwd => "passwd"
  | .start => "start"

def complaint (field : RequiredField) : String := "'" ++ field.key ++ "' is required"

end RequiredField

def required (request : Request) : RequiredField → String
  | .first => request.first
  | .last => request.last
  | .passwd => request.passwd
  | .start => request.start

def firstBlank? (request : Request) : Option RequiredField :=
  RequiredField.all.find? fun field => Text.isBlankText (request.required field)

/-! ## Where the viewer starts -/

def isHome (start : String) : Bool := start.toList.map Char.toLower = "home".toList

/-- The start that is reported back: `url`, `home` or, for anything else, `last`. -/
def startLocation (start : String) : String :=
  if start.toList.take 4 = "uri:".toList then "url"
  else if isHome start then "home"
  else "last"

/-! ## What can be wrong with a request -/

inductive Error where
  | notAMap
  | missing (field : RequiredField)
  | wrongShape (key : String) (expected : Wire.Shape)
  deriving DecidableEq, Repr

def Error.message : Error → String
  | .notAMap => "login request must be a map"
  | .missing field => field.complaint
  | .wrongShape key expected => "'" ++ key ++ "' must be " ++ expected.phrase

end Request

end ViewerLogin
