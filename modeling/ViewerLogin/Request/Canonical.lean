import ViewerLogin.Json.Numeral
import ViewerLogin.Request.Basic
import ViewerLogin.Wire.Word

/-!
# Requests on the wire

A request is written as a map without its unset fields. Reading checks the required fields
first, in their order, and then goes through the others.
-/

namespace ViewerLogin.Request

/-! ## Writing -/

def optional (key : String) (value : Option Json) : List (String × Json) :=
  value.toList.map fun value => (key, value)

def writeText (key : String) (value : Option String) : List (String × Json) :=
  optional key (value.map .text)

def writeFlag (key : String) (value : Option Bool) : List (String × Json) :=
  optional key (value.map .truth)

def toPairs (request : Request) : List (String × Json) :=
  [("first", .text request.first), ("last", .text request.last),
    ("passwd", .text request.passwd), ("start", .text request.start)] ++
  writeText "channel" request.channel ++
  writeText "version" request.version ++
  writeText "platform" request.platform ++
  writeText "platform_string" request.platformString ++
  writeText "platform_version" request.platformVersion ++
  writeText "mac" request.mac ++
  writeText "id0" request.id0 ++
  writeFlag "agree_to_tos" request.agreeToTos ++
  writeFlag "read_critical" request.readCritical ++
  writeText "viewer_digest" request.viewerDigest ++
  writeText "address_size" request.addressSize ++
  writeText "extended_errors" request.extendedErrors ++
  optional "last_exec_event" (request.lastExecEvent.map fun event => .ofInt event.toInt) ++
  writeText "last_exec_duration" request.lastExecDuration ++
  writeFlag "skipoptional" request.skipOptional ++
  [("options", request.selector.toJson)]

def toMembers (request : Request) : Json.Members := .ofList request.toPairs

/-! ## Reading -/

def checkRequired (members : Json.Members) (field : RequiredField) : Except Error String :=
  match members.get? field.key with
  | some (.text text) => if Text.isBlankText text then .error (.missing field) else .ok text
  | none => .error (.missing field)
  | some _ => .error (.wrongShape field.key .text)

/-- Some viewers send numbers where others send text. -/
def readText (members : Json.Members) (key : String) : Except Error (Option String) :=
  match members.get? key with
  | none | some .null => .ok none
  | some (.text text) => .ok (some text)
  | some (.number number) => .ok (some number.text)
  | some _ => .error (.wrongShape key .text)

def readFlag (members : Json.Members) (key : String) : Except Error (Option Bool) :=
  match members.get? key with
  | none | some .null => .ok none
  | some (.truth value) => .ok (some value)
  | some (.text "true") => .ok (some true)
  | some (.text "false") => .ok (some false)
  | some _ => .error (.wrongShape key .truth)

def readEvent (members : Json.Members) (key : String) : Except Error (Option Int64) :=
  match members.get? key with
  | none => .ok none
  | some (.number (.integer value)) =>
      match Wire.Word.ofInt? value with
      | some event => .ok (some event)
      | none => .error (.wrongShape key .integer)
  | some _ => .error (.wrongShape key .integer)

def textOf? : Json → Option String
  | .text text => some text
  | _ => none

def readSelector (members : Json.Members) (key : String) : Except Error Selector :=
  match members.get? key with
  | none => .ok .none
  | some (.list items) =>
      match items.mapM textOf? with
      | some names => .ok (.ofNames names)
      | none => .error (.wrongShape key .optionNames)
  | some _ => .error (.wrongShape key .optionNames)

def ofMembers (members : Json.Members) : Except Error Request := do
  let first ← checkRequired members .first
  let last ← checkRequired members .last
  let passwd ← checkRequired members .passwd
  let start ← checkRequired members .start
  return {
    first := first
    last := last
    passwd := passwd
    start := start
    channel := ← readText members "channel"
    version := ← readText members "version"
    platform := ← readText members "platform"
    platformString := ← readText members "platform_string"
    platformVersion := ← readText members "platform_version"
    mac := ← readText members "mac"
    id0 := ← readText members "id0"
    agreeToTos := ← readFlag members "agree_to_tos"
    readCritical := ← readFlag members "read_critical"
    viewerDigest := ← readText members "viewer_digest"
    addressSize := ← readText members "address_size"
    extendedErrors := ← readText members "extended_errors"
    lastExecEvent := ← readEvent members "last_exec_event"
    lastExecDuration := ← readText members "last_exec_duration"
    skipOptional := ← readFlag members "skipoptional"
    selector := ← readSelector members "options" }

def ofJson : Json → Except Error Request
  | .map members => ofMembers members
  | _ => .error .notAMap

end ViewerLogin.Request
