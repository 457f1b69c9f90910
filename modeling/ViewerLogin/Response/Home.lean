import ViewerLogin.Wire.Coordinate

/-!
# Home positions

A home is a region of the grid, a point in it and the direction to face. It travels as a map
of three lists; many grids write it as one text instead, and both are read.
-/

namespace ViewerLogin

structure Home where
  region : Place
  position : Point
  lookAt : Point
  deriving DecidableEq, Repr

namespace Home

open Wire (Codec Error Record)

def unset : Home := ⟨.unset, .unset, .unset⟩

/-! ## The map form -/

def toPairs (home : Home) : List (String × Json) := [
  ("region_handle", Codec.place.write home.region),
  ("position", Codec.point.write home.position),
  ("look_at", Codec.point.write home.lookAt)]

def toJson (home : Home) : Json := .object home.toPairs

def partKey (key part : String) : String := key ++ "." ++ part

def readMap (key : String) (members : Json.Members) : Except Error Home := do
  return {
    region := ← Codec.place.read (partKey key "region_handle") (members.get? "region_handle")
    position := ← Codec.point.read (partKey key "position") (members.get? "position")
    lookAt := ← Codec.point.read (partKey key "look_at") (members.get? "look_at") }

/-! ## The text form

The parts are written one after the other, each with its label in quotes and its coordinates
in brackets. -/

def writeSection (label : String) (coordinates : List Coordinate) : List Char :=
  '\'' :: label.toList ++ "':[".toList ++ Text.join [','] (coordinates.map Wire.tag) ++ [']']

def legacyCharacters (home : Home) : List Char :=
  '\x7b' :: Text.join ", ".toList [
    writeSection "region_handle" home.region.toList,
    writeSection "position" home.position.toList,
    writeSection "look_at" home.lookAt.toList] ++ ['\x7d']

def legacyText (home : Home) : String := String.ofList home.legacyCharacters

def isQuote (character : Char) : Bool := character = '\'' || character = '\x22'

def labelOf (characters : List Char) : List Char :=
  Text.dropEndWhile isQuote ((Text.trimCharacters characters).dropWhile isQuote)

def readSection (key : String) (home : Home) (label : List Char)
    (coordinates : List Coordinate) : Except Error Home :=
  if label = "region_handle".toList then
    match Place.ofList? coordinates with
    | some region => .ok { home with region }
    | none => .error (.wrongLength (partKey key "region_handle") 2)
  else if label = "position".toList then
    match Point.ofList? coordinates with
    | some position => .ok { home with position }
    | none => .error (.wrongLength (partKey key "position") 3)
  else if label = "look_at".toList then
    match Point.ofList? coordinates with
    | some lookAt => .ok { home with lookAt }
    | none => .error (.wrongLength (partKey key "look_at") 3)
  else
    .ok home

def readSections (key : String) (home : Home) : List (List Char) → Except Error Home
  | [] => .ok home
  | piece :: rest =>
      match Text.cutAtPair? ':' '[' piece with
      | none => readSections key home rest
      | some (label, values) =>
          match readSection key home (labelOf label) (Wire.splitCoordinates values) with
          | .error error => .error error
          | .ok home => readSections key home rest

def readText (key : String) (characters : List Char) : Except Error Home :=
  let body := Text.dropEndWhile (· == '\x7d')
    ((Text.trimCharacters characters).dropWhile (· == '\x7b'))
  readSections key unset (Text.splitAtPair ']' ',' body)

/-! ## Both forms -/

def codec : Codec Home where
  write := toJson
  read key slot :=
    match Wire.present slot with
    | none => .ok unset
    | some (.map members) => readMap key members
    | some (.text text) => readText key text.toList
    | some _ => .error (.wrongShape key .home)

end Home

end ViewerLogin
