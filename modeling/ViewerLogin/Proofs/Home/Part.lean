import ViewerLogin.Proofs.Json.Members
import ViewerLogin.Proofs.Wire.Tidy
import ViewerLogin.Response.Home

/-!
# The parts of a home

A home has three parts, each with a label and a number of coordinates. In the map form a part
stands at its label, and in the text form it has a section of its own; either way it is read by
itself and sets that part of the home alone.
-/

namespace ViewerLogin.Home

inductive Part where
  | region
  | position
  | lookAt
  deriving DecidableEq, Repr

namespace Part

def all : List Part := [.region, .position, .lookAt]

def label : Part → String
  | .region => "region_handle"
  | .position => "position"
  | .lookAt => "look_at"

theorem label_injective : Function.Injective label := by
  intro left right same
  cases left <;> cases right <;> first | rfl | exact absurd same (by decide)

def ofLabel? (label : String) : Option Part := all.find? (·.label = label)

theorem ofLabel?_label (part : Part) : ofLabel? part.label = some part := by
  cases part <;> decide +kernel

theorem label_of_ofLabel? {name : String} {part : Part} (found : ofLabel? name = some part) :
    part.label = name := by
  have holds := List.find?_some found
  simpa using holds

theorem ofLabel?_eq_some_iff {name : String} {part : Part} :
    ofLabel? name = some part ↔ name = part.label :=
  ⟨fun found => (label_of_ofLabel? found).symm, fun same => same ▸ part.ofLabel?_label⟩

def size : Part → Nat
  | .region => 2
  | .position | .lookAt => 3

@[reducible] def Value : Part → Type
  | .region => Place
  | .position | .lookAt => Point

def toList : (part : Part) → part.Value → List Coordinate
  | .region => Place.toList
  | .position | .lookAt => Point.toList

def ofList? : (part : Part) → List Coordinate → Option part.Value
  | .region => Place.ofList?
  | .position | .lookAt => Point.ofList?

def codec : (part : Part) → Wire.Codec part.Value
  | .region => Wire.Codec.place
  | .position | .lookAt => Wire.Codec.point

/-! ## Gathering coordinates -/

theorem exists_place {found : List Coordinate} (fits : found.length = 2) :
    ∃ place, Place.ofList? found = some place ∧ place.toList = found := by
  rcases List.length_eq_two.mp fits with ⟨x, y, rfl⟩
  exact ⟨⟨x, y⟩, rfl, rfl⟩

theorem exists_point {found : List Coordinate} (fits : found.length = 3) :
    ∃ point, Point.ofList? found = some point ∧ point.toList = found := by
  rcases List.length_eq_three.mp fits with ⟨x, y, z, rfl⟩
  exact ⟨⟨x, y, z⟩, rfl, rfl⟩

theorem exists_ofList? {part : Part} {found : List Coordinate} (fits : found.length = part.size) :
    ∃ value, part.ofList? found = some value ∧ part.toList value = found := by
  cases part with
  | region => exact exists_place fits
  | position | lookAt => exact exists_point fits

theorem length_toList {part : Part} (value : part.Value) :
    (part.toList value).length = part.size := by
  cases part <;> rfl

theorem ofList?_eq_none {part : Part} {found : List Coordinate}
    (misfits : found.length ≠ part.size) : part.ofList? found = none := by
  cases gathered : part.ofList? found with
  | none => rfl
  | some value =>
      have same : part.toList value = found := by
        cases part with
        | region => exact Place.toList_of_ofList? _ _ gathered
        | position | lookAt => exact Point.toList_of_ofList? _ _ gathered
      exact absurd (same ▸ length_toList value) misfits

end Part

/-! ## Reading and setting a part -/

def part (home : Home) : (part : Part) → part.Value
  | .region => home.region
  | .position => home.position
  | .lookAt => home.lookAt

def setPart (home : Home) : (part : Part) → part.Value → Home
  | .region, region => { home with region }
  | .position, position => { home with position }
  | .lookAt, lookAt => { home with lookAt }

def partCoordinates (home : Home) (part : Part) : List Coordinate := part.toList (home.part part)

@[simp] theorem part_setPart_same (home : Home) (part : Part) (value : part.Value) :
    (home.setPart part value).part part = value := by
  cases part <;> rfl

theorem part_setPart_other (home : Home) {part other : Part} (different : other ≠ part)
    (value : part.Value) : (home.setPart part value).part other = home.part other := by
  cases part <;> cases other <;> first | rfl | exact absurd rfl different

theorem ext_partCoordinates {left right : Home}
    (same : ∀ part, left.partCoordinates part = right.partCoordinates part) : left = right := by
  have region := same .region
  have position := same .position
  have lookAt := same .lookAt
  simp only [partCoordinates, Part.toList, part, Place.toList, Point.toList, List.cons.injEq,
    and_true] at region position lookAt
  rcases left with ⟨⟨_, _⟩, ⟨_, _, _⟩, ⟨_, _, _⟩⟩
  rcases right with ⟨⟨_, _⟩, ⟨_, _, _⟩, ⟨_, _, _⟩⟩
  simp_all

/-- In a map whose other parts can be read, what is read of one part decides about the whole. -/
theorem readMap_insert {key : String} {members : Json.Members} {part : Part} {before : Json}
    {base : Home} (valid : readMap key (members.insert part.label before) = .ok base)
    (value : Json) :
    readMap key (members.insert part.label value) =
      (part.codec.read (partKey key part.label) (some value)).map (base.setPart part) := by
  simp only [readMap, Wire.bind_eq_ok_iff, Json.Members.get?_insert] at valid ⊢
  rcases valid with ⟨region, regionRead, position, positionRead, lookAt, lookAtRead, same⟩
  cases same
  cases part with
  | region =>
      simp only [Part.label, Part.codec, String.reduceEq, reduceIte] at positionRead lookAtRead ⊢
      rw [positionRead, lookAtRead]
      cases Wire.Codec.place.read (partKey key "region_handle") (some value) <;> rfl
  | position =>
      simp only [Part.label, Part.codec, String.reduceEq, reduceIte] at regionRead lookAtRead ⊢
      rw [regionRead, lookAtRead]
      cases Wire.Codec.point.read (partKey key "position") (some value) <;> rfl
  | lookAt =>
      simp only [Part.label, Part.codec, String.reduceEq, reduceIte] at regionRead positionRead ⊢
      rw [regionRead, positionRead]
      cases Wire.Codec.point.read (partKey key "look_at") (some value) <;> rfl

end ViewerLogin.Home
