import ViewerLogin.Proofs.Response.Insertion
import ViewerLogin.Proofs.Wire.Form

/-!
# Misshapen values in a response

Each field of a response has a form. A value of another form is refused rather than taken for one
that was not set, and the error names the key when nothing else is wrong. The event categories
are the exception: there every value but a list reads as no categories.
-/

namespace ViewerLogin

open Wire (Form IsUnset)
open Wire.Codec

/-! ## Forms of fields -/

theorem Home.refuses_codec : codec.Refuses .home := by
  intro key value isSet misshapen
  have isPresent := Wire.present_of_not_isUnset isSet
  cases value with
  | map members => exact absurd (.homeMap members) misshapen
  | text text => exact absurd (.homeText text) misshapen
  | _ => simp only [codec, isPresent, Form.expected]

theorem Folder.refuses_ownerCodec : ownerCodec.Refuses .record := by
  intro key value isSet misshapen
  simp only [ownerCodec, ownerRecord.readFirst_of_not_admits key isSet misshapen]
  rfl

namespace CoreField

def form : CoreField → Form
  | .home => .home
  | .lookAt => .coordinates
  | .access | .accessLimit | .seedCapability | .firstName | .lastName | .agent | .simAddress
  | .startLocation | .session | .secureSession | .message => .text
  | .simPort | .httpPort | .regionX | .regionY | .regionSizeX | .regionSizeY
  | .circuitCode => .integer
  | .login => .truth

theorem refuses (field : CoreField) : field.codec.Refuses field.form := by
  cases field with
  | home => exact Home.refuses_codec
  | lookAt => exact refuses_point
  | seedCapability | firstName | lastName | startLocation | message => exact refuses_text
  | access | accessLimit | agent | simAddress | session | secureSession =>
      exact refuses_spelled _ _
  | simPort | httpPort | regionX | regionY | regionSizeX | regionSizeY | circuitCode =>
      exact refuses_word
  | login => exact refuses_truth

end CoreField

namespace Block

def form : Block → Form
  | .inventoryRoot | .libraryRoot | .libraryOwner | .outfit | .skyTextures | .loginFlags
  | .viewerSettings => .record
  | .inventorySkeleton | .librarySkeleton | .buddies | .gestures | .eventCategories
  | .categories => .list
  | .mapServer => .text
  | .groupLimit => .integer

theorem refuses {block : Block} (notEvents : block ≠ .eventCategories) :
    block.codec.Refuses block.form := by
  cases block with
  | inventoryRoot | libraryRoot => exact refuses_reference _
  | inventorySkeleton | librarySkeleton | buddies | gestures | categories =>
      exact refuses_listOf _
  | libraryOwner => exact Folder.refuses_ownerCodec
  | mapServer => exact refuses_text
  | outfit | skyTextures | loginFlags | viewerSettings => exact refuses_single _ _
  | eventCategories => exact absurd rfl notEvents
  | groupLimit => exact refuses_word

end Block

namespace Field

def form : Field → Form
  | .core member => member.form
  | .block member => member.form

theorem refuses {field : Field} (notEvents : field ≠ .block .eventCategories) :
    field.codec.Refuses field.form := by
  cases field with
  | core member => exact member.refuses
  | block member => exact Block.refuses fun same => notEvents (congrArg Field.block same)

end Field

/-! ## Whole responses -/

namespace Response

/-- A value that is set and does not have the form of its field makes the whole map unreadable,
whatever else is in it. Where everything else can be read the error names its key. -/
theorem ofMembers_of_misshapen {members : Json.Members} {field : Field} {value : Json}
    (stands : members.get? field.key = some value) (isSet : ¬IsUnset (some value))
    (misshapen : ¬field.form.Admits value) (notEvents : field ≠ .block .eventCategories) :
    (∃ error, ofMembers members = .error error) ∧
      ∀ base, ofMembers (members.insert field.key .null) = .ok base →
        ofMembers members = .error (.wrongShape field.key field.form.expected) := by
  have refused : readField members field =
      .error (.wrongShape field.key field.form.expected) := by
    rw [readField_of_get? stands]
    exact Field.refuses notEvents field.key value isSet misshapen
  constructor
  · cases outcome : ofMembers members with
    | error error => exact ⟨error, rfl⟩
    | ok response =>
        have isRead := ofMembers_eq_ok_iff.mp outcome field
        rw [refused] at isRead
        contradiction
  · intro base readable
    apply ofMembers_eq_error refused
    intro other different
    refine ⟨base.value other, ?_⟩
    rw [← readField_insert_other members different .null]
    exact ofMembers_eq_ok_iff.mp readable other

def rootless : Json.Members :=
  [("first_name", .text "Ruth"), ("inventory-root", .text "none")]

theorem ofMembers_of_misshapen_rootless :
    rootless.get? (Field.block .inventoryRoot).key = some (.text "none") ∧
      ¬IsUnset (some (.text "none")) ∧
      ¬(Field.block .inventoryRoot).form.Admits (.text "none") ∧
      (∃ base, ofMembers (rootless.insert "inventory-root" .null) = .ok base) ∧
      ofMembers rootless = .error (.wrongShape "inventory-root" .list) := by
  have stands : rootless.get? (Field.block .inventoryRoot).key = some (.text "none") := by
    decide +kernel
  have isSet : ¬IsUnset (some (.text "none")) := Wire.not_isUnset_of_present (by decide)
  have misshapen : ¬(Field.block .inventoryRoot).form.Admits (.text "none") := by
    intro admits
    cases admits
  have readable : (ofMembers (rootless.insert "inventory-root" .null)).map (fun _ => ()) =
      .ok () := by decide +kernel
  obtain ⟨base, isRead, _⟩ := Wire.map_eq_ok_iff.mp readable
  refine ⟨stands, isSet, misshapen, ⟨base, isRead⟩, ?_⟩
  exact (ofMembers_of_misshapen stands isSet misshapen (by decide)).2 base isRead

/-- A text in place of the event categories is dropped, and nothing is set in what is read. -/
theorem ofMembers_eventText :
    ¬IsUnset (some (.text "Shopping")) ∧
      ¬(Field.block .eventCategories).form.Admits (.text "Shopping") ∧
      ofMembers [((Field.block .eventCategories).key, .text "Shopping")] = .ok unset := by
  refine ⟨Wire.not_isUnset_of_present (by decide), ?_, by decide +kernel⟩
  intro admits
  cases admits

end Response

end ViewerLogin
