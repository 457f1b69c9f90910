import ViewerLogin.Decimal.Integer

/-!
# What can be wrong with a map

Reading a map fails with the first cause found. Each cause names the key it was found at; the
wording is settled in one place.
-/

namespace ViewerLogin.Wire

inductive Shape where
  | text
  | integer
  | truth
  | truthText
  | list
  | listOfMaps
  | coordinates
  | home
  | optionNames
  deriving DecidableEq, Repr

def Shape.phrase : Shape → String
  | .text => "a string"
  | .integer => "an integer"
  | .truth => "a boolean"
  | .truthText => "\"true\" or \"false\""
  | .list => "a list"
  | .listOfMaps => "a list of maps"
  | .coordinates => "a list of coordinates"
  | .home => "a map or a home string"
  | .optionNames => "a list of option names"

inductive Error where
  | notAMap
  | missing (key : String)
  | wrongShape (key : String) (expected : Shape)
  | invalid (key value : String)
  | wrongLength (key : String) (expected : Nat)
  deriving DecidableEq, Repr

def Error.message : Error → String
  | .notAMap => "login response must be a map"
  | .missing key => "missing field '" ++ key ++ "'"
  | .wrongShape key expected => "field '" ++ key ++ "' must be " ++ expected.phrase
  | .invalid key value => "field '" ++ key ++ "' has invalid value '" ++ value ++ "'"
  | .wrongLength key expected =>
      "field '" ++ key ++ "' must have " ++ String.ofList (Decimal.natural expected) ++
        " elements"

end ViewerLogin.Wire
