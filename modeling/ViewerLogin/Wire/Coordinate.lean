import ViewerLogin.Json.Numeral
import ViewerLogin.Text.Split
import ViewerLogin.Wire.Codec

/-!
# Coordinates

Coordinates are kept as the texts they came in. On the wire each carries the tag of real
numbers; lists of them may come as a list or as one text in brackets.
-/

namespace ViewerLogin

abbrev Coordinate := Option String

structure Place where
  x : Coordinate
  y : Coordinate
  deriving DecidableEq, Repr

structure Point where
  x : Coordinate
  y : Coordinate
  z : Coordinate
  deriving DecidableEq, Repr

namespace Place

def unset : Place := ⟨none, none⟩

def of (x y : String) : Place := ⟨some x, some y⟩

def toList (place : Place) : List Coordinate := [place.x, place.y]

def ofList? : List Coordinate → Option Place
  | [x, y] => some ⟨x, y⟩
  | _ => none

end Place

namespace Point

def unset : Point := ⟨none, none, none⟩

def of (x y z : String) : Point := ⟨some x, some y, some z⟩

def toList (point : Point) : List Coordinate := [point.x, point.y, point.z]

def ofList? : List Coordinate → Option Point
  | [x, y, z] => some ⟨x, y, z⟩
  | _ => none

end Point

namespace Wire

/-! ## Tags -/

def realTag : Char := 'r'

def tag (coordinate : Coordinate) : List Char :=
  realTag :: (coordinate.getD placeholder).toList

def removeTag : List Char → List Char
  | [] => []
  | first :: rest => if first = realTag then rest else first :: rest

/-- Removes the blanks at both ends and one tag; nothing and the placeholder are unset. -/
def untag (characters : List Char) : Coordinate :=
  let value := removeTag (Text.trimCharacters characters)
  if value = [] ∨ value = placeholder.toList then none else some (String.ofList value)

example : tag (some "128") = "r128".toList ∧ tag none = "rNone".toList := by decide +kernel

example : untag " r128 ".toList = some "128" ∧ untag "rNone".toList = none := by decide +kernel

/-! ## Lists of coordinates -/

def writeCoordinates (coordinates : List Coordinate) : Json :=
  .list (coordinates.map fun coordinate => .text (String.ofList (tag coordinate)))

def splitCoordinates (characters : List Char) : List Coordinate :=
  let inside := Text.dropEndWhile (· == ']')
    ((Text.trimCharacters characters).dropWhile (· == '['))
  (Text.split ',' inside).map untag

example : splitCoordinates "[r1, r0,None]".toList = [some "1", some "0", none] := by
  decide +kernel

def readItem (key : String) : Json → Except Error Coordinate
  | .text text => .ok (untag text.toList)
  | .number number => .ok (some number.text)
  | _ => .error (.wrongShape key .coordinates)

def readItems (key : String) : List Json → Except Error (List Coordinate)
  | [] => .ok []
  | item :: rest =>
      match readItem key item with
      | .error error => .error error
      | .ok coordinate =>
          match readItems key rest with
          | .error error => .error error
          | .ok coordinates => .ok (coordinate :: coordinates)

namespace Codec

/-- A fixed number of coordinates; when there are none all of them are unset. -/
def coordinates {α : Type} (size : Nat) (toList : α → List Coordinate)
    (ofList? : List Coordinate → Option α) (unset : α) : Codec α where
  write value := writeCoordinates (toList value)
  read key slot :=
    let sized (found : List Coordinate) : Except Error α :=
      match ofList? found with
      | some value => .ok value
      | none => .error (.wrongLength key size)
    match present slot with
    | none => .ok unset
    | some (.list items) =>
        match readItems key items with
        | .error error => .error error
        | .ok found => sized found
    | some (.text text) => sized (splitCoordinates text.toList)
    | some _ => .error (.wrongShape key .coordinates)

def place : Codec Place := coordinates 2 Place.toList Place.ofList? .unset

def point : Codec Point := coordinates 3 Point.toList Point.ofList? .unset

end Codec

end Wire

end ViewerLogin
