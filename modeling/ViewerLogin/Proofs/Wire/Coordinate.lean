import ViewerLogin.Proofs.Wire.Codec
import ViewerLogin.Wire.Coordinate

/-!
# Coordinates read back

The tag stands in front of a coordinate and keeps the blanks at its start; those at its end are
lost with the trimming. A coordinate of which nothing but the placeholder is left is unset.
-/

namespace ViewerLogin

namespace Text

theorem dropEndWhile_cons {test : Char → Bool} {first : Char} (kept : test first = false)
    (rest : List Char) : dropEndWhile test (first :: rest) = first :: dropEndWhile test rest := by
  have single : [first].dropWhile test = [first] :=
    List.dropWhile_cons_of_neg (by rw [kept]; exact Bool.false_ne_true)
  rw [dropEndWhile, dropEndWhile, List.reverse_cons, List.dropWhile_append, single]
  split
  · next nothing =>
      rw [List.isEmpty_iff.mp nothing]
      rfl
  · rw [List.reverse_append]
    rfl

def trimEnd (text : String) : String := String.ofList (dropEndWhile isBlank text.toList)

theorem toList_trimEnd (text : String) : (trimEnd text).toList = dropEndWhile isBlank text.toList :=
  String.toList_ofList

theorem trimCharacters_cons {first : Char} (visible : isBlank first = false) (rest : List Char) :
    trimCharacters (first :: rest) = first :: dropEndWhile isBlank rest := by
  have kept : (first :: rest).dropWhile isBlank = first :: rest :=
    List.dropWhile_cons_of_neg (by rw [visible]; exact Bool.false_ne_true)
  rw [trimCharacters, kept, dropEndWhile_cons visible]

end Text

namespace Wire

def normalCoordinate (coordinate : Coordinate) : Coordinate :=
  (coordinate.map Text.trimEnd).filter fun text => text ≠ "" ∧ text ≠ placeholder

/-- A coordinate that keeps its tag, its blanks and its meaning on the wire. -/
def Tidy (coordinate : Coordinate) : Prop :=
  ∀ text ∈ coordinate,
    text ≠ placeholder ∧ Text.isBlankText text = false ∧ Text.trimEnd text = text

instance (coordinate : Coordinate) : Decidable (Tidy coordinate) :=
  match coordinate with
  | none => .isTrue nofun
  | some text =>
      decidable_of_iff
        (text ≠ placeholder ∧ Text.isBlankText text = false ∧ Text.trimEnd text = text)
        (by simp [Tidy])

theorem normalCoordinate_eq_self {coordinate : Coordinate} (tidy : Tidy coordinate) :
    normalCoordinate coordinate = coordinate := by
  cases coordinate with
  | none => rfl
  | some text =>
      rcases tidy text rfl with ⟨different, visible, trimmed⟩
      have nonempty : text ≠ "" := by
        rintro rfl
        exact absurd visible (by decide)
      simp [normalCoordinate, trimmed, nonempty, different]

theorem untag_tag (coordinate : Coordinate) :
    untag (tag coordinate) = normalCoordinate coordinate := by
  have tagVisible : Text.isBlank realTag = false := by decide
  have trimmed : removeTag (Text.trimCharacters (tag coordinate)) =
      (Text.trimEnd (coordinate.getD placeholder)).toList := by
    rw [tag, Text.trimCharacters_cons tagVisible, removeTag, if_pos rfl, Text.toList_trimEnd]
  rw [untag]
  simp only [trimmed, String.toList_eq_nil_iff, String.toList_inj, String.ofList_toList]
  cases coordinate with
  | none =>
      rw [Option.getD_none, if_pos (.inr (by decide +kernel))]
      rfl
  | some text =>
      rw [Option.getD_some, normalCoordinate, Option.map_some, Option.filter_some]
      by_cases lost : Text.trimEnd text = "" ∨ Text.trimEnd text = placeholder
      · rw [if_pos lost, if_neg]
        simpa [Classical.or_iff_not_imp_left] using lost
      · rw [if_neg lost, if_pos]
        simpa using lost

theorem readItems_tag (key : String) (coordinates : List Coordinate) :
    readItems key (coordinates.map fun coordinate => .text (String.ofList (tag coordinate))) =
      .ok (coordinates.map normalCoordinate) := by
  induction coordinates with
  | nil => rfl
  | cons first rest induction =>
      rw [List.map_cons, List.map_cons, readItems, induction, readItem, String.toList_ofList,
        untag_tag]

namespace Codec

theorem reads_coordinates {α : Type} {size : Nat} {toList : α → List Coordinate}
    {ofList? : List Coordinate → Option α} (unset : α) {value result : α}
    (collects : ofList? ((toList value).map normalCoordinate) = some result) :
    (coordinates size toList ofList? unset).Reads value result := by
  intro key
  have isPresent : present (some (writeCoordinates (toList value))) =
    some (writeCoordinates (toList value)) := rfl
  simp only [coordinates, isPresent]
  simp only [writeCoordinates, readItems_tag, collects]

end Codec

end Wire

/-! ## Places and points -/

open Wire (normalCoordinate)

def Place.normal (place : Place) : Place := ⟨normalCoordinate place.x, normalCoordinate place.y⟩

def Point.normal (point : Point) : Point :=
  ⟨normalCoordinate point.x, normalCoordinate point.y, normalCoordinate point.z⟩

theorem Place.normal_eq_self {place : Place} (tidy : ∀ each ∈ place.toList, Wire.Tidy each) :
    place.normal = place := by
  simp only [Place.toList, List.forall_mem_cons] at tidy
  rw [Place.normal, Wire.normalCoordinate_eq_self tidy.1, Wire.normalCoordinate_eq_self tidy.2.1]

theorem Point.normal_eq_self {point : Point} (tidy : ∀ each ∈ point.toList, Wire.Tidy each) :
    point.normal = point := by
  simp only [Point.toList, List.forall_mem_cons] at tidy
  rw [Point.normal, Wire.normalCoordinate_eq_self tidy.1, Wire.normalCoordinate_eq_self tidy.2.1,
    Wire.normalCoordinate_eq_self tidy.2.2.1]

theorem Wire.Codec.reads_place (value : Place) : place.Reads value value.normal :=
  reads_coordinates _ rfl

theorem Wire.Codec.reads_point (value : Point) : point.Reads value value.normal :=
  reads_coordinates _ rfl

end ViewerLogin
