import ViewerLogin.Json.Numeral
import ViewerLogin.Text.Hex

/-!
# Writing JSON values

Values are written without any blank space. Only quotation marks, backslashes and control
characters are escaped; all other characters stand for themselves.
-/

namespace ViewerLogin.Json

/-! ## Strings -/

def escape (character : Char) : List Char :=
  match character with
  | '"' => ['\\', '"']
  | '\\' => ['\\', '\\']
  | '\u0008' => ['\\', 'b']
  | '\u000c' => ['\\', 'f']
  | '\n' => ['\\', 'n']
  | '\r' => ['\\', 'r']
  | '\t' => ['\\', 't']
  | _ =>
      if character.toNat < 0x20 then '\\' :: 'u' :: Text.Hex.write 4 character.toNat
      else [character]

example : escape '\n' = ['\\', 'n'] ∧ escape '\u001f' = "\\u001f".toList := by decide

def quote (text : String) : List Char :=
  '"' :: text.toList.flatMap escape ++ ['"']

/-! ## Values -/

mutual

def write : Json → List Char
  | .null => "null".toList
  | .truth value => (if value then "true" else "false").toList
  | .number value => value.characters
  | .text value => quote value
  | .list items => '[' :: writeItems items ++ [']']
  | .map members => '\x7b' :: writeMembers members ++ ['\x7d']

def writeItems : List Json → List Char
  | [] => []
  | [item] => write item
  | item :: rest => write item ++ ',' :: writeItems rest

def writeMembers : List (String × Json) → List Char
  | [] => []
  | [(key, value)] => quote key ++ ':' :: write value
  | (key, value) :: rest => quote key ++ ':' :: write value ++ ',' :: writeMembers rest

end

def toText (value : Json) : String := String.ofList (write value)

example : (Json.map [("a", .list [.null, .truth true]), ("b", .ofInt (-1))]).toText =
    "\x7b\"a\":[null,true],\"b\":-1\x7d" := by decide +kernel

end ViewerLogin.Json
