import ViewerLogin.Proofs.Response.Home
import ViewerLogin.Proofs.Wire.Bracketed

/-!
# Lists of coordinates in a response

A response has four lists of coordinates: the direction to look in and the three parts of the
home. Each may come as a list or as one text in brackets, and both are read alike.
-/

namespace ViewerLogin

open Wire (Item)

namespace Home

/-! ## Both forms of a part -/

theorem Part.exists_codec_eq (part : Part) :
    ∃ unset, part.codec = Wire.Codec.coordinates part.size part.toList part.ofList? unset := by
  cases part with
  | region => exact ⟨Place.unset, rfl⟩
  | position | lookAt => exact ⟨Point.unset, rfl⟩

theorem Part.ofList?_of_few (part : Part) :
    part.ofList? [] = none ∧ part.ofList? [none] = none := by
  cases part <;> exact ⟨rfl, rfl⟩

theorem Part.read_list (part : Part) (key : String) (items : List Item) :
    part.codec.read key (some (.list (items.map Item.toJson))) =
      (part.ofList? (items.map Item.coordinate)).elim (.error (.wrongLength key part.size)) .ok := by
  rcases part.exists_codec_eq with ⟨unset, same⟩
  rw [same, Wire.Codec.coordinates_list]

theorem Part.read_bracketed (part : Part) (key : String) {items : List Item}
    (plain : ∀ item ∈ items, item.Plain) :
    part.codec.read key (some (.text (Item.bracketed items))) =
      part.codec.read key (some (.list (items.map Item.toJson))) := by
  rcases part.exists_codec_eq with ⟨unset, same⟩
  rw [same, Wire.Codec.coordinates_bracketed part.ofList?_of_few key plain]

theorem read_map (key : String) (members : Json.Members) :
    codec.read key (some (.map members)) = readMap key members := rfl

theorem readMap_insert_congr (key : String) (members : Json.Members) (part : Part)
    {left right : Json}
    (same : part.codec.read (partKey key part.label) (some left) =
      part.codec.read (partKey key part.label) (some right)) :
    readMap key (members.insert part.label left) =
      readMap key (members.insert part.label right) := by
  simp only [readMap, Json.Members.get?_insert]
  cases part with
  | region =>
      simp only [Part.label, Part.codec, String.reduceEq, reduceIte] at same ⊢
      rw [same]
  | position =>
      simp only [Part.label, Part.codec, String.reduceEq, reduceIte] at same ⊢
      rw [same]
  | lookAt =>
      simp only [Part.label, Part.codec, String.reduceEq, reduceIte] at same ⊢
      rw [same]

end Home

/-! ## The direction to look in -/

namespace Response

theorem ofMembers_insert_lookAt {members : Json.Members} {before : Json} {base : Response}
    (valid : ofMembers (members.insert "look_at" before) = .ok base) (value : Json) :
    ofMembers (members.insert "look_at" value) =
      (Wire.Codec.point.read "look_at" (some value)).map fun lookAt => { base with lookAt } := by
  have validAt : ofMembers (members.insert (Field.core .lookAt).key before) = .ok base := valid
  have inserted := ofMembers_insert validAt value
  rw [Field.codec, CoreField.codec, Field.key, CoreField.key] at inserted
  exact inserted

theorem ofMembers_insert_lookAt_congr (members : Json.Members) {left right : Json}
    (same : Wire.Codec.point.read "look_at" (some left) =
      Wire.Codec.point.read "look_at" (some right)) :
    ofMembers (members.insert "look_at" left) = ofMembers (members.insert "look_at" right) := by
  have sameAt : (Field.core .lookAt).codec.read (Field.core .lookAt).key (some left) =
      (Field.core .lookAt).codec.read (Field.core .lookAt).key (some right) := by
    rw [Field.codec, CoreField.codec, Field.key, CoreField.key]
    exact same
  exact ofMembers_insert_congr members (.core .lookAt) sameAt

end Response

/-! ## Places of lists -/

inductive CoordinatePlace where
  | lookAt
  | home (part : Home.Part)
  deriving DecidableEq, Repr

namespace CoordinatePlace

def part : CoordinatePlace → Home.Part
  | .lookAt => .lookAt
  | .home part => part

def key : CoordinatePlace → String
  | .lookAt => "look_at"
  | .home part => "home." ++ part.label

def put (place : CoordinatePlace) (members parts : Json.Members) (value : Json) : Json.Members :=
  match place with
  | .lookAt => members.insert "look_at" value
  | .home part => members.insert "home" (.map (parts.insert part.label value))

def coordinates (place : CoordinatePlace) (response : Response) : List Coordinate :=
  match place with
  | .lookAt => response.lookAt.toList
  | .home part => response.home.partCoordinates part

def set (response : Response) : (place : CoordinatePlace) → place.part.Value → Response
  | .lookAt, value => { response with lookAt := value }
  | .home part, value => { response with home := response.home.setPart part value }

theorem coordinates_set_same (response : Response) (place : CoordinatePlace)
    (value : place.part.Value) :
    place.coordinates (set response place value) = place.part.toList value := by
  cases place with
  | lookAt => rfl
  | home part => exact congrArg part.toList (response.home.part_setPart_same part value)

theorem coordinates_set_other (response : Response) {place other : CoordinatePlace}
    (different : other ≠ place) (value : place.part.Value) :
    other.coordinates (set response place value) = other.coordinates response := by
  cases place with
  | lookAt =>
      cases other with
      | lookAt => exact absurd rfl different
      | home part => rfl
  | home part =>
      cases other with
      | lookAt => rfl
      | home otherPart =>
          have differentPart : otherPart ≠ part := fun same => different (congrArg home same)
          exact congrArg otherPart.toList
            (response.home.part_setPart_other differentPart value)

/-! ## Reading at a place -/

variable (place : CoordinatePlace) (members parts : Json.Members)

/-- In a map that can be read elsewhere, what is read at the place decides about the whole. -/
theorem ofMembers_put {before : Json} {base : Response}
    (valid : Response.ofMembers (place.put members parts before) = .ok base) (value : Json) :
    Response.ofMembers (place.put members parts value) =
      (place.part.codec.read place.key (some value)).map (set base place) := by
  cases place with
  | lookAt =>
      dsimp only [put, part, key, Home.Part.codec] at valid ⊢
      exact Response.ofMembers_insert_lookAt valid value
  | home part =>
      have homeRead : Home.readMap "home" (parts.insert part.label before) = .ok base.home := by
        rw [← Home.read_map, ← Response.readField_insert_home members]
        exact Response.ofMembers_eq_ok_iff.mp valid (.core .home)
      have partRead := Home.readMap_insert homeRead value
      have whole := Response.ofMembers_insert_home valid (.map (parts.insert part.label value))
      rw [Home.read_map, partRead, Wire.map_map] at whole
      exact whole

theorem ofMembers_put_congr {left right : Json}
    (same : place.part.codec.read place.key (some left) =
      place.part.codec.read place.key (some right)) :
    Response.ofMembers (place.put members parts left) =
      Response.ofMembers (place.put members parts right) := by
  cases place with
  | lookAt =>
      dsimp only [put, part, key, Home.Part.codec] at same ⊢
      exact Response.ofMembers_insert_lookAt_congr members same
  | home part =>
      have mapsRead := Home.readMap_insert_congr "home" parts part same
      rw [← Home.read_map, ← Home.read_map] at mapsRead
      exact Response.ofMembers_insert_congr members (.core .home) mapsRead

/-- Coordinates in one text with brackets read like the list of them, wherever they stand. With
the right length they are the coordinates at that place, and any other length is an error. -/
theorem ofMembers_put_bracketed {items : List Item}
    (clear : ∀ text, .text text ∈ items →
      ',' ∉ text.toList ∧ '[' ∉ text.toList ∧ ']' ∉ text.toList) :
    Response.ofMembers (place.put members parts (.text (Item.bracketed items))) =
        Response.ofMembers (place.put members parts (.list (items.map Item.toJson))) ∧
      ∀ before base, Response.ofMembers (place.put members parts before) = .ok base →
        (items.length = place.part.size →
          ∃ response,
            Response.ofMembers (place.put members parts (.list (items.map Item.toJson))) =
              .ok response ∧
            place.coordinates response = items.map Item.coordinate ∧
            ∀ other ≠ place, other.coordinates response = other.coordinates base) ∧
        (items.length ≠ place.part.size →
          Response.ofMembers (place.put members parts (.list (items.map Item.toJson))) =
            .error (.wrongLength place.key place.part.size)) := by
  have plain : ∀ item ∈ items, item.Plain := by
    intro item member
    cases item with
    | integer value => exact Item.plain_integer value
    | text text => exact clear text member
  refine ⟨place.ofMembers_put_congr members parts (place.part.read_bracketed _ plain), ?_⟩
  intro before base valid
  rw [place.ofMembers_put members parts valid, place.part.read_list]
  constructor
  · intro fits
    have found : (items.map Item.coordinate).length = place.part.size :=
      (List.length_map _).trans fits
    rcases Home.Part.exists_ofList? found with ⟨value, gathered, listed⟩
    refine ⟨set base place value, ?_, ?_, ?_⟩
    · rw [gathered]
      rfl
    · rw [coordinates_set_same, listed]
    · exact fun other different => coordinates_set_other base different value
  · intro misfits
    have none : (items.map Item.coordinate).length ≠ place.part.size :=
      fun same => misfits ((List.length_map _).symm.trans same)
    rw [Home.Part.ofList?_eq_none none]
    rfl

def uneven : List Item := [.integer 128, .text " rr1 ", .text "None"]

theorem ofMembers_put_bracketed_uneven :
    (∀ text, .text text ∈ uneven →
        ',' ∉ text.toList ∧ '[' ∉ text.toList ∧ ']' ∉ text.toList) ∧
      (∃ response,
        Response.ofMembers (put (.home .position) [] [] (.text "[128, rr1 ,None]")) =
          .ok response ∧
        response.home.position.toList = [some "128", some "r1", none]) ∧
      Response.ofMembers (put (.home .region) [] [] (.text "[128, rr1 ,None]")) =
        .error (.wrongLength "home.region_handle" 2) := by
  have plain : ∀ item ∈ uneven, item.Plain := by decide +kernel
  have clear : ∀ text, .text text ∈ uneven →
      ',' ∉ text.toList ∧ '[' ∉ text.toList ∧ ']' ∉ text.toList :=
    fun text member => plain (.text text) member
  have written : Item.bracketed uneven = "[128, rr1 ,None]" := by decide +kernel
  have valid (part : Home.Part) :
      Response.ofMembers (put (.home part) [] [] .null) = .ok .unset := by
    cases part <;> decide +kernel
  rw [← written]
  refine ⟨clear, ?_, ?_⟩
  · rcases ofMembers_put_bracketed (.home .position) [] [] clear with ⟨alike, whole⟩
    rcases (whole .null .unset (valid .position)).1 rfl with ⟨response, read, found, _⟩
    exact ⟨response, alike.trans read, found.trans (by decide +kernel)⟩
  · rcases ofMembers_put_bracketed (.home .region) [] [] clear with ⟨alike, whole⟩
    exact alike.trans ((whole .null .unset (valid .region)).2 (by decide))

end CoordinatePlace

end ViewerLogin
