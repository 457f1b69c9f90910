import ViewerLogin.IpAddress
import ViewerLogin.Json.Basic
import ViewerLogin.Text.Blank
import ViewerLogin.Uuid
import ViewerLogin.Wire.Error
import ViewerLogin.Wire.Word

/-!
# Codecs

A codec says how one value is written at a key and how the slot at a key is read back. Values
that were never set are written as a placeholder; a missing key, a null and the placeholder
all read as unset.
-/

namespace ViewerLogin.Wire

/-! ## Unset values -/

def placeholder : String := "None"

def unset : Json := .text placeholder

def isPlaceholder : Json → Bool
  | .null => true
  | .text text => text = placeholder
  | _ => false

def present (slot : Option Json) : Option Json :=
  slot.filter fun value => !isPlaceholder value

example : present none = none ∧ present (some .null) = none ∧ present (some unset) = none := by
  decide

/-- `read` is given the key for its error and the slot at that key. -/
structure Codec (α : Type) where
  write : α → Json
  read : (key : String) → (slot : Option Json) → Except Error α

namespace Codec

def readAt {α : Type} (codec : Codec α) (members : Json.Members) (key : String) :
    Except Error α :=
  codec.read key (members.get? key)

/-! ## Texts -/

def text : Codec (Option String) where
  write
    | some text => .text text
    | none => unset
  read key slot :=
    match present slot with
    | none => .ok none
    | some (.text text) => .ok (some text)
    | some _ => .error (.wrongShape key .text)

def spelled {α : Type} (spell : α → String) (parse? : String → Option α) : Codec (Option α) where
  write value := text.write (value.map spell)
  read key slot :=
    match text.read key slot with
    | .error error => .error error
    | .ok none => .ok none
    | .ok (some spelling) =>
        match parse? spelling with
        | some value => .ok (some value)
        | none => .error (.invalid key spelling)

def uuid : Codec (Option Uuid) := spelled Uuid.text Uuid.parse?

def address : Codec (Option IpAddress) := spelled IpAddress.text IpAddress.parse?

/-! ## Truth values -/

def flagText (value : Bool) : String := if value then "Y" else "N"

def parseFlag? : String → Option Bool
  | "Y" => some true
  | "N" => some false
  | _ => none

def flag : Codec (Option Bool) := spelled flagText parseFlag?

def truthText (value : Bool) : String := if value then "true" else "false"

def parseTruth? : String → Option Bool
  | "true" => some true
  | "false" => some false
  | _ => none

/-- Written as a text; a plain truth value is read too. -/
def truth : Codec (Option Bool) where
  write value := text.write (value.map truthText)
  read key slot :=
    match present slot with
    | none => .ok none
    | some (.truth value) => .ok (some value)
    | some (.text spelling) =>
        match parseTruth? spelling with
        | some value => .ok (some value)
        | none => .error (.invalid key spelling)
    | some _ => .error (.wrongShape key .truthText)

/-! ## Integers -/

def integerTextLimit : Int := 0x80000000000000000000000000000000

def parseInteger? (text : String) : Option Int :=
  (Decimal.readInteger? (Text.trimCharacters text.toList)).filter fun value =>
    -integerTextLimit ≤ value ∧ value < integerTextLimit

def integer? : Json → Option Int
  | .number (.integer value) => some value
  | .text text => parseInteger? text
  | _ => none

def word {α : Type} [Word α] : Codec (Option α) where
  write
    | some value => .ofInt (Word.toInt value)
    | none => unset
  read key slot :=
    match present slot with
    | none => .ok none
    | some value =>
        match integer? value with
        | none => .error (.wrongShape key .integer)
        | some value =>
            match Word.ofInt? value with
            | some word => .ok (some word)
            | none => .error (.invalid key (String.ofList (Decimal.integer value)))

/-! ## Values that must be there -/

def required {α : Type} (codec : Codec (Option α)) : Codec α where
  write value := codec.write (some value)
  read key slot :=
    match codec.read key slot with
    | .error error => .error error
    | .ok none => .error (.missing key)
    | .ok (some value) => .ok value

def withDefault {α : Type} (codec : Codec (Option α)) (default : α) : Codec α where
  write value := codec.write (some value)
  read key slot :=
    match codec.read key slot with
    | .error error => .error error
    | .ok value => .ok (value.getD default)

end Codec

/-! ## Records -/

structure Record (α : Type) where
  write : α → List (String × Json)
  read : Json.Members → Except Error α

namespace Record

def toJson {α : Type} (record : Record α) (value : α) : Json := .object (record.write value)

def readItems {α : Type} (record : Record α) (key : String) :
    List Json → Except Error (List α)
  | [] => .ok []
  | .map members :: rest =>
      match record.read members with
      | .error error => .error error
      | .ok value =>
          match readItems record key rest with
          | .error error => .error error
          | .ok values => .ok (value :: values)
  | _ :: _ => .error (.wrongShape key .listOfMaps)

def readList {α : Type} (record : Record α) (key : String) (slot : Option Json) :
    Except Error (List α) :=
  match present slot with
  | none => .ok []
  | some (.list items) => record.readItems key items
  | some _ => .error (.wrongShape key .list)

def readFirst {α : Type} (record : Record α) (key : String) (slot : Option Json) :
    Except Error (Option α) :=
  match present slot with
  | some (.map members) => (record.read members).map some
  | _ => (record.readList key slot).map List.head?

end Record

namespace Codec

def listOf {α : Type} (record : Record α) : Codec (List α) where
  write values := .list (values.map record.toJson)
  read := record.readList

/-- Written as a list of one record, or as the placeholder when there is none. -/
def reference {α : Type} (record : Record α) : Codec (Option α) where
  write
    | some value => .list [record.toJson value]
    | none => unset
  read := record.readFirst

def single {α : Type} (record : Record α) (default : α) : Codec α where
  write value := .list [record.toJson value]
  read key slot := (record.readFirst key slot).map (·.getD default)

/-- A list passed on as it is; anything else counts as empty. -/
def items : Codec (List Json) where
  write := .list
  read _ slot :=
    match slot with
    | some (.list items) => .ok items
    | _ => .ok []

end Codec

end ViewerLogin.Wire
