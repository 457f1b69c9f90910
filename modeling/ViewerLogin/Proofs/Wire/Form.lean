import ViewerLogin.Proofs.Wire.Integer
import ViewerLogin.Proofs.Wire.Spelling

/-!
# Forms of values

What stands at a key has a form that the key allows, or it is not set. A codec refuses what is set
and has another form, and its error names the key and what was expected there.
-/

namespace ViewerLogin.Wire

inductive Form where
  | text
  | integer
  | truth
  | record
  | list
  | coordinates
  | home
  deriving DecidableEq, Repr

namespace Form

/-- The values that have a form. What is inside of lists, maps and texts is not looked at, except
that an integer may be given as a text that spells it. -/
inductive Admits : Form → Json → Prop where
  | text (text : String) : Admits .text (.text text)
  | integer {value : Json} {number : Int} (spells : Spells value number) : Admits .integer value
  | truth (value : Bool) : Admits .truth (.truth value)
  | truthText (text : String) : Admits .truth (.text text)
  | bareRecord (members : Json.Members) : Admits .record (.map members)
  | listedRecord (items : List Json) : Admits .record (.list items)
  | list (items : List Json) : Admits .list (.list items)
  | coordinateList (items : List Json) : Admits .coordinates (.list items)
  | coordinateText (text : String) : Admits .coordinates (.text text)
  | homeMap (members : Json.Members) : Admits .home (.map members)
  | homeText (text : String) : Admits .home (.text text)

def expected : Form → Shape
  | .text => .text
  | .integer => .integer
  | .truth => .truthText
  | .record | .list => .list
  | .coordinates => .coordinates
  | .home => .home

end Form

theorem present_of_not_isUnset {value : Json} (isSet : ¬IsUnset (some value)) :
    present (some value) = some value := by
  cases value with
  | null => exact absurd .null isSet
  | text text =>
      apply present_text_of_ne
      intro same
      subst same
      exact isSet .named
  | _ => rfl

theorem not_isUnset_of_present {value : Json} (isPresent : present (some value) = some value) :
    ¬IsUnset (some value) := by
  intro isUnset
  rw [present_of_isUnset isUnset] at isPresent
  contradiction

/-! ## Records -/

namespace Record

variable {α : Type} (record : Record α) (key : String) {value : Json}
  (isSet : ¬IsUnset (some value))

include isSet

theorem readList_of_not_admits (misshapen : ¬Form.list.Admits value) :
    record.readList key (some value) = .error (.wrongShape key .list) := by
  have isPresent := present_of_not_isUnset isSet
  cases value with
  | list items => exact absurd (.list items) misshapen
  | _ => simp only [readList, isPresent]

theorem readFirst_of_not_admits (misshapen : ¬Form.record.Admits value) :
    record.readFirst key (some value) = .error (.wrongShape key .list) := by
  have isPresent := present_of_not_isUnset isSet
  have unlisted : ¬Form.list.Admits value := by
    intro listed
    cases listed with
    | list items => exact misshapen (.listedRecord items)
  have refused := record.readList_of_not_admits key isSet unlisted
  cases value with
  | map members => exact absurd (.bareRecord members) misshapen
  | _ =>
      simp only [readFirst, isPresent, refused]
      rfl

end Record

/-! ## Codecs -/

namespace Codec

variable {α : Type}

/-- Under any key the codec refuses values that are set and do not have the form. -/
def Refuses (codec : Codec α) (form : Form) : Prop :=
  ∀ (key : String) (value : Json), ¬IsUnset (some value) → ¬form.Admits value →
    codec.read key (some value) = .error (.wrongShape key form.expected)

theorem refuses_text : text.Refuses .text := by
  intro key value isSet misshapen
  have isPresent := present_of_not_isUnset isSet
  cases value with
  | text text => exact absurd (.text text) misshapen
  | _ => simp only [text, isPresent, Form.expected]

theorem refuses_spelled (spell : α → String) (parse? : String → Option α) :
    (spelled spell parse?).Refuses .text := by
  intro key value isSet misshapen
  simp only [spelled, refuses_text key value isSet misshapen]

theorem refuses_word [Word α] : (word : Codec (Option α)).Refuses .integer := by
  intro key value isSet misshapen
  have nothing : integer? value = none := by
    rw [Option.eq_none_iff_forall_ne_some]
    intro number held
    exact misshapen (.integer (integer?_eq_some_iff.mp held))
  simp only [word, present_of_not_isUnset isSet, nothing, Form.expected]

theorem refuses_truth : truth.Refuses .truth := by
  intro key value isSet misshapen
  have isPresent := present_of_not_isUnset isSet
  cases value with
  | truth value => exact absurd (.truth value) misshapen
  | text text => exact absurd (.truthText text) misshapen
  | _ => simp only [truth, isPresent, Form.expected]

theorem refuses_coordinates (size : Nat) (toList : α → List Coordinate)
    (ofList? : List Coordinate → Option α) (unset : α) :
    (coordinates size toList ofList? unset).Refuses .coordinates := by
  intro key value isSet misshapen
  have isPresent := present_of_not_isUnset isSet
  cases value with
  | list items => exact absurd (.coordinateList items) misshapen
  | text text => exact absurd (.coordinateText text) misshapen
  | _ => simp only [coordinates, isPresent, Form.expected]

theorem refuses_point : point.Refuses .coordinates := refuses_coordinates _ _ _ _

theorem refuses_listOf (record : Record α) : (listOf record).Refuses .list :=
  fun key _ isSet misshapen => record.readList_of_not_admits key isSet misshapen

theorem refuses_reference (record : Record α) : (reference record).Refuses .record :=
  fun key _ isSet misshapen => record.readFirst_of_not_admits key isSet misshapen

theorem refuses_single (record : Record α) (default : α) :
    (single record default).Refuses .record := by
  intro key value isSet misshapen
  simp only [single, record.readFirst_of_not_admits key isSet misshapen]
  rfl

end Codec

end ViewerLogin.Wire
