import ViewerLogin.Proofs.Wire.Coordinate
import ViewerLogin.Response.Basic

/-!
# Normal forms

Every field has a normal form, which is what its value reads back as. Texts and coordinates
are changed by it, and so is what contains them; all other values are their own normal form.
Only one value cannot be read back at all: a category that is named like the placeholder.
-/

namespace ViewerLogin

open Json.Members (get?_ofList_of_nodup)
open Wire (Codec Record normalText placeholder)
open Wire.Codec

/-! ## Homes -/

namespace Home

def coordinates (home : Home) : List Coordinate :=
  home.region.toList ++ home.position.toList ++ home.lookAt.toList

def normal (home : Home) : Home := ⟨home.region.normal, home.position.normal, home.lookAt.normal⟩

def Tidy (home : Home) : Prop := ∀ each ∈ home.coordinates, Wire.Tidy each

theorem tidy_iff {home : Home} : home.Tidy ↔
    (∀ each ∈ home.region.toList, Wire.Tidy each) ∧
      (∀ each ∈ home.position.toList, Wire.Tidy each) ∧
      ∀ each ∈ home.lookAt.toList, Wire.Tidy each := by
  rw [Tidy, coordinates, List.forall_mem_append, List.forall_mem_append, and_assoc]

theorem normal_eq_self {home : Home} (tidy : home.Tidy) : home.normal = home := by
  rcases tidy_iff.mp tidy with ⟨region, position, lookAt⟩
  rw [normal, Place.normal_eq_self region, Point.normal_eq_self position,
    Point.normal_eq_self lookAt]

theorem reads_codec (home : Home) : codec.Reads home home.normal := by
  intro key
  have distinct : (home.toPairs.map Prod.fst).Nodup := by simp [toPairs]
  have region : (Json.Members.ofList home.toPairs).get? "region_handle" =
      some (place.write home.region) :=
    get?_ofList_of_nodup distinct (by simp [toPairs])
  have position : (Json.Members.ofList home.toPairs).get? "position" =
      some (point.write home.position) :=
    get?_ofList_of_nodup distinct (by simp [toPairs])
  have lookAt : (Json.Members.ofList home.toPairs).get? "look_at" =
      some (point.write home.lookAt) :=
    get?_ofList_of_nodup distinct (by simp [toPairs])
  have isPresent : Wire.present (some home.toJson) = some home.toJson := rfl
  simp only [codec, isPresent]
  simp only [toJson, Json.object, readMap, region, position, lookAt, reads_place _ _,
    reads_point _ _]
  rfl

end Home

/-! ## Inventory -/

namespace Folder

def normal (folder : Folder) : Folder := { folder with name := normalText folder.name }

theorem map_normal_of_list {folders : List Folder} (same : ∀ each ∈ folders, each.normal = each) :
    folders.map normal = folders :=
  (List.map_congr_left same).trans (List.map_id' folders)

theorem map_normal_of_option {folder : Option Folder}
    (same : ∀ each ∈ folder.toList, each.normal = each) : folder.map normal = folder := by
  cases folder with
  | none => rfl
  | some each => exact congrArg some (same each (List.mem_singleton.mpr rfl))

theorem reads_record (folder : Folder) : record.Reads folder folder.normal := by
  have distinct : ((record.write folder).map Prod.fst).Nodup := by simp [record]
  have id : Codec.uuid.readAt (.ofList (record.write folder)) "folder_id" = .ok folder.id :=
    readAt_ofList_of_nodup distinct (reads_uuid _) (by simp [record])
  have parent : Codec.uuid.readAt (.ofList (record.write folder)) "parent_id" =
      .ok folder.parent :=
    readAt_ofList_of_nodup distinct (reads_uuid _) (by simp [record])
  have name : Codec.text.readAt (.ofList (record.write folder)) "name" =
      .ok (normalText folder.name) :=
    readAt_ofList_of_nodup distinct (reads_text _) (by simp [record])
  have assetType : assetTypeCodec.readAt (.ofList (record.write folder)) "type_default" =
      .ok folder.assetType :=
    readAt_ofList_of_nodup distinct (reads_withDefault _ (reads_word _)) (by simp [record])
  have version : Codec.word.readAt (.ofList (record.write folder)) "version" =
      .ok folder.version :=
    readAt_ofList_of_nodup distinct (reads_word _) (by simp [record])
  rw [Record.Reads]
  generalize Json.Members.ofList (record.write folder) = members at *
  simp only [record, id, parent, name, assetType, version]
  rfl

theorem reads_ownerRecord (owner : Option Uuid) : ownerRecord.Reads owner owner :=
  readAt_ofList_of_nodup (by simp [ownerRecord]) (reads_uuid owner) (by simp [ownerRecord])

theorem reads_ownerCodec (owner : Option Uuid) : ownerCodec.Reads owner owner := by
  intro key
  cases owner with
  | none => rfl
  | some id =>
      simp only [ownerCodec, readFirst_singleton key (reads_ownerRecord (some id))]
      rfl

end Folder

theorem Gesture.reads_record (gesture : Gesture) : record.Reads gesture gesture := by
  have distinct : ((record.write gesture).map Prod.fst).Nodup := by simp [record]
  have item : Codec.uuid.required.readAt (.ofList (record.write gesture)) "item_id" =
      .ok gesture.item :=
    readAt_ofList_of_nodup distinct (reads_required (reads_uuid _)) (by simp [record])
  have asset : Codec.uuid.required.readAt (.ofList (record.write gesture)) "asset_id" =
      .ok gesture.asset :=
    readAt_ofList_of_nodup distinct (reads_required (reads_uuid _)) (by simp [record])
  rw [Record.Reads]
  generalize Json.Members.ofList (record.write gesture) = members at *
  simp only [record, item, asset]
  rfl

namespace Outfit

def normal (outfit : Outfit) : Outfit := ⟨normalText outfit.folderName, normalText outfit.gender⟩

theorem reads_record (outfit : Outfit) : record.Reads outfit outfit.normal := by
  have distinct : ((record.write outfit).map Prod.fst).Nodup := by simp [record]
  have folderName : Codec.text.readAt (.ofList (record.write outfit)) "folder_name" =
      .ok (normalText outfit.folderName) :=
    readAt_ofList_of_nodup distinct (reads_text _) (by simp [record])
  have gender : Codec.text.readAt (.ofList (record.write outfit)) "gender" =
      .ok (normalText outfit.gender) :=
    readAt_ofList_of_nodup distinct (reads_text _) (by simp [record])
  rw [Record.Reads]
  generalize Json.Members.ofList (record.write outfit) = members at *
  simp only [record, folderName, gender]
  rfl

end Outfit

/-! ## Friends -/

namespace Buddy

theorem reads_rights (value : Rights) : rights.Reads value value := by
  intro key
  rcases value with ⟨online, onMap, objects⟩
  cases online <;> cases onMap <;> cases objects <;> rfl

theorem reads_record (buddy : Buddy) : record.Reads buddy buddy := by
  have distinct : ((record.write buddy).map Prod.fst).Nodup := by simp [record]
  have id : Codec.uuid.required.readAt (.ofList (record.write buddy)) "buddy_id" =
      .ok buddy.id :=
    readAt_ofList_of_nodup distinct (reads_required (reads_uuid _)) (by simp [record])
  have given : rights.readAt (.ofList (record.write buddy)) "buddy_rights_given" =
      .ok buddy.given :=
    readAt_ofList_of_nodup distinct (reads_rights _) (by simp [record])
  have has : rights.readAt (.ofList (record.write buddy)) "buddy_rights_has" =
      .ok buddy.has :=
    readAt_ofList_of_nodup distinct (reads_rights _) (by simp [record])
  rw [Record.Reads]
  generalize Json.Members.ofList (record.write buddy) = members at *
  simp only [record, id, given, has]
  rfl

end Buddy

/-! ## What the viewer shows -/

theorem SkyTextures.reads_record (textures : SkyTextures) : record.Reads textures textures := by
  have distinct : ((record.write textures).map Prod.fst).Nodup := by simp [record]
  have cloud : Codec.uuid.readAt (.ofList (record.write textures)) "cloud_texture_id" =
      .ok textures.cloud :=
    readAt_ofList_of_nodup distinct (reads_uuid _) (by simp [record])
  have sun : Codec.uuid.readAt (.ofList (record.write textures)) "sun_texture_id" =
      .ok textures.sun :=
    readAt_ofList_of_nodup distinct (reads_uuid _) (by simp [record])
  have moon : Codec.uuid.readAt (.ofList (record.write textures)) "moon_texture_id" =
      .ok textures.moon :=
    readAt_ofList_of_nodup distinct (reads_uuid _) (by simp [record])
  rw [Record.Reads]
  generalize Json.Members.ofList (record.write textures) = members at *
  simp only [record, cloud, sun, moon]
  rfl

theorem ViewerSettings.reads_record (settings : ViewerSettings) :
    record.Reads settings settings := by
  have allowed : Codec.flag.readAt (.ofList (record.write settings)) "allow_first_life" =
      .ok settings.firstLifeAllowed :=
    readAt_ofList_of_nodup (by simp [record]) (reads_flag _) (by simp [record])
  rw [Record.Reads]
  generalize Json.Members.ofList (record.write settings) = members at *
  simp only [record, allowed]
  rfl

theorem LoginFlags.reads_record (flags : LoginFlags) : record.Reads flags flags := by
  have distinct : ((record.write flags).map Prod.fst).Nodup := by simp [record]
  have stipend : Codec.flag.readAt (.ofList (record.write flags)) "stipend_since_login" =
      .ok flags.stipendPaid :=
    readAt_ofList_of_nodup distinct (reads_flag _) (by simp [record])
  have entered : Codec.flag.readAt (.ofList (record.write flags)) "ever_logged_in" =
      .ok flags.everLoggedIn :=
    readAt_ofList_of_nodup distinct (reads_flag _) (by simp [record])
  have daylight : Codec.flag.readAt (.ofList (record.write flags)) "daylight_savings" =
      .ok flags.daylightSavings :=
    readAt_ofList_of_nodup distinct (reads_flag _) (by simp [record])
  have gendered : Codec.flag.readAt (.ofList (record.write flags)) "gendered" =
      .ok flags.gendered :=
    readAt_ofList_of_nodup distinct (reads_flag _) (by simp [record])
  have clock : Codec.word.readAt (.ofList (record.write flags)) "seconds_since_epoch" =
      .ok flags.clock :=
    readAt_ofList_of_nodup distinct (reads_word _) (by simp [record])
  rw [Record.Reads]
  generalize Json.Members.ofList (record.write flags) = members at *
  simp only [record, stipend, entered, daylight, gendered, clock]
  rfl

namespace Category

def Unnamed (category : Category) : Prop := category.name = placeholder

theorem readAt_id (category : Category) :
    (Codec.word.required : Codec Int32).readAt (.ofList (record.write category)) "category_id" =
      .ok category.id :=
  readAt_ofList_of_nodup (by simp [record]) (reads_required (reads_word _)) (by simp [record])

theorem reads_record {category : Category} (named : ¬category.Unnamed) :
    record.Reads category category := by
  have id := category.readAt_id
  have reads : text.required.Reads category.name category.name := by
    have same := reads_text (some category.name)
    rw [Wire.normalText_of_ne named] at same
    exact reads_required same
  have name : Codec.text.required.readAt (.ofList (record.write category)) "category_name" =
      .ok category.name :=
    readAt_ofList_of_nodup (by simp [record]) reads (by simp [record])
  rw [Record.Reads]
  generalize Json.Members.ofList (record.write category) = members at *
  simp only [record, id, name]
  rfl

theorem read_unnamed {category : Category} (unnamed : category.Unnamed) :
    record.read (.ofList (record.write category)) = .error (.missing "category_name") := by
  have id := category.readAt_id
  have found : (Json.Members.ofList (record.write category)).get? "category_name" =
      some (.text placeholder) := by
    rw [← unnamed]
    exact get?_ofList_of_nodup (by simp [record]) (by simp [record, required, text])
  have name : Codec.text.required.readAt (.ofList (record.write category)) "category_name" =
      .error (.missing "category_name") := by
    rw [readAt, found]
    rfl
  generalize Json.Members.ofList (record.write category) = members at *
  simp only [record, id, name]
  rfl

end Category

/-! ## Fields -/

def CoreField.normal : (field : CoreField) → field.Value → field.Value
  | .home => Home.normal
  | .lookAt => Point.normal
  | .seedCapability | .firstName | .lastName | .startLocation | .message => normalText
  | .access | .accessLimit | .agent | .session | .secureSession | .simAddress | .simPort
  | .httpPort | .regionX | .regionY | .regionSizeX | .regionSizeY | .circuitCode | .login => id

theorem CoreField.reads (field : CoreField) (value : field.Value) :
    field.codec.Reads value (field.normal value) := by
  cases field with
  | home => exact Home.reads_codec value
  | lookAt => exact reads_point value
  | access | accessLimit => exact reads_spelled Maturity.ofTag?_tag (by decide) value
  | seedCapability | firstName | lastName | startLocation | message => exact reads_text value
  | agent | session | secureSession => exact reads_uuid value
  | simAddress => exact reads_address value
  | simPort | httpPort => exact reads_word value
  | regionX | regionY | regionSizeX | regionSizeY | circuitCode => exact reads_word value
  | login => exact reads_truth value

namespace Block

def normal : (block : Block) → block.Value → block.Value
  | .inventoryRoot | .libraryRoot => Option.map Folder.normal
  | .inventorySkeleton | .librarySkeleton => List.map Folder.normal
  | .mapServer => normalText
  | .outfit => Outfit.normal
  | .libraryOwner | .buddies | .gestures | .skyTextures | .loginFlags | .viewerSettings
  | .eventCategories | .categories | .groupLimit => id

def Unreadable : (block : Block) → block.Value → Prop
  | .categories, value => ∃ category ∈ value, category.Unnamed
  | _, _ => False

theorem reads_list {α : Type} {record : Record α} {values : List α}
    (reads : ∀ value ∈ values, record.Reads value value) : (listOf record).Reads values values := by
  have same := reads_listOf reads
  rwa [List.map_id'] at same

theorem reads (block : Block) (value : block.Value) (readable : ¬block.Unreadable value) :
    block.codec.Reads value (block.normal value) := by
  cases block with
  | inventoryRoot | libraryRoot =>
      exact reads_reference fun each _ => each.reads_record
  | inventorySkeleton | librarySkeleton =>
      exact reads_listOf fun each _ => each.reads_record
  | libraryOwner => exact Folder.reads_ownerCodec value
  | mapServer => exact reads_text value
  | buddies => exact reads_list fun each _ => each.reads_record
  | gestures => exact reads_list fun each _ => each.reads_record
  | outfit => exact reads_single _ value.reads_record
  | skyTextures => exact reads_single _ value.reads_record
  | loginFlags => exact reads_single _ value.reads_record
  | viewerSettings => exact reads_single _ value.reads_record
  | eventCategories => exact reads_items value
  | categories =>
      refine reads_list fun category member => Category.reads_record fun unnamed => ?_
      exact readable ⟨category, member, unnamed⟩
  | groupLimit => exact reads_word value

theorem read_unreadable {block : Block} {value : block.Value} (unreadable : block.Unreadable value)
    (key : String) :
    block.codec.read key (some (block.codec.write value)) = .error (.missing "category_name") := by
  cases block with
  | categories =>
      exact Record.readItems_eq_error key Category.Unnamed
        (fun _ named => Category.reads_record named) (fun _ => Category.read_unnamed) unreadable
  | _ => exact False.elim unreadable

end Block

namespace Field

def normal : (field : Field) → field.Value → field.Value
  | .core member => member.normal
  | .block member => member.normal

theorem read_none (field : Field) (key : String) :
    field.codec.read key none = .ok (Response.unsetValue field) := by
  cases field with
  | core member => cases member <;> rfl
  | block member => cases member <;> rfl

end Field

end ViewerLogin
