import ViewerLogin.Proofs.Json.Writable
import ViewerLogin.Response.Canonical

/-!
# Responses can be written

Whatever the codecs write can be read back as a JSON value, with lists and maps nested at most
three deep. Only the event categories, which are passed on as they came, are asked about.
-/

namespace ViewerLogin

open Json (Writable)

namespace Wire

/-! ## Codecs -/

def Codec.Writes {α : Type} (codec : Codec α) (depth : Nat) : Prop :=
  ∀ value, Writable depth (codec.write value)

def Record.Writes {α : Type} (record : Record α) (depth : Nat) : Prop :=
  ∀ value, ∀ pair ∈ record.write value, Writable depth pair.2

variable {α : Type} {depth : Nat}

theorem Record.Writes.toJson {record : Record α} (writes : record.Writes depth) (value : α) :
    Writable (depth + 1) (record.toJson value) :=
  Json.writable_ofList (writes value)

namespace Codec

theorem writes_text : text.Writes depth := by
  intro value
  cases value with
  | none => exact .text _ _
  | some text => exact .text _ _

theorem writes_spelled {spell : α → String} {parse? : String → Option α} :
    (spelled spell parse?).Writes depth :=
  fun value => writes_text (value.map spell)

theorem writes_truth : truth.Writes depth := fun value => writes_text (value.map truthText)

theorem writes_word [Word α] : (word : Codec (Option α)).Writes depth := by
  intro value
  cases value with
  | none => exact .text _ _
  | some word =>
      exact .integer _ (Int.le_trans Word.least_le_low (Word.low_le_toInt word))
        (Int.lt_of_lt_of_le (Word.toInt_lt_limit word) Word.limit_le_greatest)

theorem writes_required {codec : Codec (Option α)} (writes : codec.Writes depth) :
    codec.required.Writes depth :=
  fun value => writes (some value)

theorem writes_withDefault {codec : Codec (Option α)} {default : α}
    (writes : codec.Writes depth) : (codec.withDefault default).Writes depth :=
  fun value => writes (some value)

theorem writes_listOf {record : Record α} (writes : record.Writes depth) :
    (listOf record).Writes (depth + 2) := by
  intro values
  apply Writable.list
  intro item member
  rcases List.mem_map.mp member with ⟨value, _, rfl⟩
  exact writes.toJson value

theorem writable_singleton {record : Record α} (writes : record.Writes depth) (value : α) :
    Writable (depth + 2) (.list [record.toJson value]) :=
  writes_listOf writes [value]

theorem writes_reference {record : Record α} (writes : record.Writes depth) :
    (reference record).Writes (depth + 2) := by
  intro value
  cases value with
  | none => exact .text _ _
  | some value => exact writable_singleton writes value

theorem writes_single {record : Record α} {default : α} (writes : record.Writes depth) :
    (single record default).Writes (depth + 2) :=
  writable_singleton writes

theorem writable_coordinates (coordinates : List Coordinate) :
    Writable (depth + 1) (writeCoordinates coordinates) := by
  apply Writable.list
  intro item member
  rcases List.mem_map.mp member with ⟨coordinate, _, rfl⟩
  exact .text _ _

end Codec

end Wire

open Wire.Codec

/-! ## Records -/

theorem Home.writes_codec {depth : Nat} : codec.Writes (depth + 2) := by
  intro home
  apply Json.writable_ofList
  simp only [toPairs, List.forall_mem_cons]
  exact ⟨writable_coordinates _, writable_coordinates _, writable_coordinates _, nofun⟩

theorem Folder.writes_record {depth : Nat} : record.Writes depth := by
  intro folder
  simp only [record, List.forall_mem_cons]
  exact ⟨writes_spelled _, writes_spelled _, writes_text _, writes_withDefault writes_word _,
    writes_word _, nofun⟩

theorem Folder.writes_ownerCodec {depth : Nat} : ownerCodec.Writes (depth + 2) := by
  intro owner
  cases owner with
  | none => exact .text _ _
  | some id =>
      apply writable_singleton
      intro owner
      simp only [ownerRecord, List.forall_mem_cons]
      exact ⟨writes_spelled _, nofun⟩

theorem Gesture.writes_record {depth : Nat} : record.Writes depth := by
  intro gesture
  simp only [record, List.forall_mem_cons]
  exact ⟨writes_required writes_spelled _, writes_required writes_spelled _, nofun⟩

theorem Outfit.writes_record {depth : Nat} : record.Writes depth := by
  intro outfit
  simp only [record, List.forall_mem_cons]
  exact ⟨writes_text _, writes_text _, nofun⟩

theorem Buddy.writes_rights {depth : Nat} : rights.Writes depth := by
  intro value
  have few : value.bits < 8 := by
    have online := value.seeOnline.toNat_lt
    have onMap := value.seeOnMap.toNat_lt
    have objects := value.modifyObjects.toNat_lt
    simp only [Rights.bits]
    omega
  apply Writable.integer
  · exact Int.le_trans (by decide) (Int.natCast_nonneg _)
  · exact Int.lt_trans (Int.ofNat_lt.mpr few) (by decide)

theorem Buddy.writes_record {depth : Nat} : record.Writes depth := by
  intro buddy
  simp only [record, List.forall_mem_cons]
  exact ⟨writes_required writes_spelled _, writes_rights _, writes_rights _, nofun⟩

theorem SkyTextures.writes_record {depth : Nat} : record.Writes depth := by
  intro textures
  simp only [record, List.forall_mem_cons]
  exact ⟨writes_spelled _, writes_spelled _, writes_spelled _, nofun⟩

theorem Category.writes_record {depth : Nat} : record.Writes depth := by
  intro category
  simp only [record, List.forall_mem_cons]
  exact ⟨writes_required writes_word _, writes_required writes_text _, nofun⟩

theorem ViewerSettings.writes_record {depth : Nat} : record.Writes depth := by
  intro settings
  simp only [record, List.forall_mem_cons]
  exact ⟨writes_spelled _, nofun⟩

theorem LoginFlags.writes_record {depth : Nat} : record.Writes depth := by
  intro flags
  simp only [record, List.forall_mem_cons]
  exact ⟨writes_spelled _, writes_spelled _, writes_spelled _, writes_spelled _, writes_word _,
    nofun⟩

/-! ## Fields -/

theorem CoreField.writes_codec {depth : Nat} (field : CoreField) :
    field.codec.Writes (depth + 2) := by
  cases field with
  | home => exact Home.writes_codec
  | lookAt => exact fun _ => writable_coordinates _
  | access | accessLimit => exact writes_spelled
  | seedCapability | firstName | lastName | startLocation | message => exact writes_text
  | agent | session | secureSession | simAddress => exact writes_spelled
  | simPort | httpPort => exact writes_word
  | regionX | regionY | regionSizeX | regionSizeY | circuitCode => exact writes_word
  | login => exact writes_truth

def Block.PassedOn : (block : Block) → block.Value → List Json
  | .eventCategories, value => value
  | _, _ => []

theorem Block.writable {depth : Nat} (block : Block) (value : block.Value)
    (passedOn : ∀ item ∈ block.PassedOn value, Writable (depth + 1) item) :
    Writable (depth + 2) (block.codec.write value) := by
  cases block with
  | inventoryRoot | libraryRoot => exact writes_reference Folder.writes_record value
  | inventorySkeleton | librarySkeleton => exact writes_listOf Folder.writes_record value
  | libraryOwner => exact Folder.writes_ownerCodec value
  | mapServer => exact writes_text value
  | buddies => exact writes_listOf Buddy.writes_record value
  | gestures => exact writes_listOf Gesture.writes_record value
  | outfit => exact writes_single Outfit.writes_record value
  | skyTextures => exact writes_single SkyTextures.writes_record value
  | loginFlags => exact writes_single LoginFlags.writes_record value
  | viewerSettings => exact writes_single ViewerSettings.writes_record value
  | eventCategories => exact .list passedOn
  | categories => exact writes_listOf Category.writes_record value
  | groupLimit => exact writes_word value

theorem Response.writable_toMembersWith {depth : Nat} (response : Response) (blocks : List Block)
    (events : ∀ event ∈ response.eventCategories, Writable (depth + 1) event) :
    Writable (depth + 3) (.map (response.toMembersWith blocks)) := by
  apply Json.writable_ofList
  intro pair member
  rcases List.mem_map.mp member with ⟨field, _, rfl⟩
  cases field with
  | core field => exact field.writes_codec _
  | block block =>
      apply block.writable
      cases block with
      | eventCategories => exact events
      | _ => exact nofun

end ViewerLogin
