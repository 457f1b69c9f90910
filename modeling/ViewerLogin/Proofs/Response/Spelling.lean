import Mathlib.Logic.Relation
import ViewerLogin.Proofs.Wire.Spelling
import ViewerLogin.Response.Canonical

/-!
# Responses spelled in other ways

Grids send the same response in many spellings. Each of them is settled at the key of one field,
or at the keys inside the maps of one field; as nothing is read from more than one key, any
number of them at once leaves the response as it is, or the error that is found instead.
-/

namespace ViewerLogin

open Wire (Inside IsUnset SameAt present_of_isUnset)
open Wire.Codec

/-! ## Homes -/

namespace Home

def keys : List String := ["region_handle", "position", "look_at"]

theorem skipsUnset_codec : codec.SkipsUnset := by
  intro key slot
  simp only [codec, Wire.present_present]

theorem readMap_congr (key : String) {left right : Json.Members} (same : SameAt keys left right) :
    readMap key left = readMap key right := by
  have slots := same.present_eq
  simp only [keys, List.forall_mem_cons] at slots
  rcases slots with ⟨region, position, lookAt, _⟩
  rw [readMap, readMap, skipsUnset_place.read_congr _ region,
    skipsUnset_point.read_congr _ position, skipsUnset_point.read_congr _ lookAt]

theorem readsInside_codec : codec.ReadsInside keys := by
  intro key left right inside
  cases inside with
  | alone same => exact readMap_congr key same
  | listed _ _ _ => rfl

end Home

/-! ## Records -/

namespace Folder

def keys : List String := ["folder_id", "parent_id", "name", "type_default", "version"]

theorem readsOnly_record : record.ReadsOnly keys := by
  intro left right slots
  simp only [keys, List.forall_mem_cons] at slots
  rcases slots with ⟨id, parent, name, assetType, version, _⟩
  have type : assetTypeCodec.SkipsUnset := skipsUnset_word.withDefault anyType
  simp only [record, skipsUnset_uuid.readAt_congr id, skipsUnset_uuid.readAt_congr parent,
    skipsUnset_text.readAt_congr name, type.readAt_congr assetType,
    skipsUnset_word.readAt_congr version]

def ownerKeys : List String := ["agent_id"]

theorem readsOnly_ownerRecord : ownerRecord.ReadsOnly ownerKeys := by
  intro left right slots
  exact skipsUnset_uuid.readAt_congr (slots "agent_id" List.mem_cons_self)

theorem skipsUnset_ownerCodec : ownerCodec.SkipsUnset := by
  intro key slot
  simp only [ownerCodec, ownerRecord.readFirst_present key slot]

theorem readsInside_ownerCodec : ownerCodec.ReadsInside ownerKeys :=
  fun key _ _ inside =>
    congrArg (Except.map Option.join) (readsOnly_ownerRecord.readFirst key inside)

theorem takesSingleton_ownerCodec : ownerCodec.TakesSingleton :=
  fun key members =>
    congrArg (Except.map Option.join) (ownerRecord.readFirst_singleton key members)

end Folder

namespace Gesture

def keys : List String := ["item_id", "asset_id"]

theorem readsOnly_record : record.ReadsOnly keys := by
  intro left right slots
  simp only [keys, List.forall_mem_cons] at slots
  rcases slots with ⟨item, asset, _⟩
  have uuid := skipsUnset_uuid.required
  simp only [record, uuid.readAt_congr item, uuid.readAt_congr asset]

end Gesture

namespace Outfit

def keys : List String := ["folder_name", "gender"]

theorem readsOnly_record : record.ReadsOnly keys := by
  intro left right slots
  simp only [keys, List.forall_mem_cons] at slots
  rcases slots with ⟨folderName, gender, _⟩
  simp only [record, skipsUnset_text.readAt_congr folderName, skipsUnset_text.readAt_congr gender]

end Outfit

namespace Buddy

def keys : List String := ["buddy_id", "buddy_rights_given", "buddy_rights_has"]

theorem skipsUnset_rights : rights.SkipsUnset := by
  intro key slot
  have word : (Wire.Codec.word : Wire.Codec (Option Int64)).SkipsUnset := skipsUnset_word
  simp only [rights, word key slot]

theorem readsOnly_record : record.ReadsOnly keys := by
  intro left right slots
  simp only [keys, List.forall_mem_cons] at slots
  rcases slots with ⟨id, given, has, _⟩
  have uuid := skipsUnset_uuid.required
  simp only [record, uuid.readAt_congr id, skipsUnset_rights.readAt_congr given,
    skipsUnset_rights.readAt_congr has]

end Buddy

namespace SkyTextures

def keys : List String := ["cloud_texture_id", "sun_texture_id", "moon_texture_id"]

theorem readsOnly_record : record.ReadsOnly keys := by
  intro left right slots
  simp only [keys, List.forall_mem_cons] at slots
  rcases slots with ⟨cloud, sun, moon, _⟩
  simp only [record, skipsUnset_uuid.readAt_congr cloud, skipsUnset_uuid.readAt_congr sun,
    skipsUnset_uuid.readAt_congr moon]

end SkyTextures

namespace Category

def keys : List String := ["category_id", "category_name"]

theorem readsOnly_record : record.ReadsOnly keys := by
  intro left right slots
  simp only [keys, List.forall_mem_cons] at slots
  rcases slots with ⟨id, name, _⟩
  simp only [record, skipsUnset_word.required.readAt_congr id,
    skipsUnset_text.required.readAt_congr name]

end Category

namespace ViewerSettings

def keys : List String := ["allow_first_life"]

theorem readsOnly_record : record.ReadsOnly keys := by
  intro left right slots
  have allowed := slots "allow_first_life" List.mem_cons_self
  simp only [record, skipsUnset_flag.readAt_congr allowed]

end ViewerSettings

namespace LoginFlags

def keys : List String :=
  ["stipend_since_login", "ever_logged_in", "daylight_savings", "gendered", "seconds_since_epoch"]

theorem readsOnly_record : record.ReadsOnly keys := by
  intro left right slots
  simp only [keys, List.forall_mem_cons] at slots
  rcases slots with ⟨stipendPaid, everLoggedIn, daylightSavings, gendered, clock, _⟩
  simp only [record, skipsUnset_flag.readAt_congr stipendPaid,
    skipsUnset_flag.readAt_congr everLoggedIn, skipsUnset_flag.readAt_congr daylightSavings,
    skipsUnset_flag.readAt_congr gendered, skipsUnset_word.readAt_congr clock]

end LoginFlags

/-! ## Fields -/

theorem CoreField.skipsUnset (field : CoreField) : field.codec.SkipsUnset := by
  cases field with
  | home => exact Home.skipsUnset_codec
  | lookAt => exact skipsUnset_point
  | seedCapability | firstName | lastName | startLocation | message => exact skipsUnset_text
  | access | accessLimit | agent | session | secureSession | simAddress =>
      exact skipsUnset_spelled _ _
  | simPort | httpPort | regionX | regionY | regionSizeX | regionSizeY | circuitCode =>
      exact skipsUnset_word
  | login => exact skipsUnset_truth

namespace Block

def recordKeys? : Block → Option (List String)
  | .inventoryRoot | .libraryRoot | .inventorySkeleton | .librarySkeleton => some Folder.keys
  | .libraryOwner => some Folder.ownerKeys
  | .buddies => some Buddy.keys
  | .gestures => some Gesture.keys
  | .outfit => some Outfit.keys
  | .skyTextures => some SkyTextures.keys
  | .loginFlags => some LoginFlags.keys
  | .viewerSettings => some ViewerSettings.keys
  | .categories => some Category.keys
  | .mapServer | .eventCategories | .groupLimit => none

def isSingle : Block → Bool
  | .inventoryRoot | .libraryRoot | .libraryOwner | .outfit | .skyTextures | .loginFlags
  | .viewerSettings => true
  | _ => false

theorem skipsUnset (block : Block) : block.codec.SkipsUnset := by
  cases block with
  | inventoryRoot | libraryRoot => exact skipsUnset_reference _
  | inventorySkeleton | librarySkeleton | buddies | gestures | categories =>
      exact skipsUnset_listOf _
  | libraryOwner => exact Folder.skipsUnset_ownerCodec
  | mapServer => exact skipsUnset_text
  | outfit | skyTextures | loginFlags | viewerSettings => exact skipsUnset_single _ _
  | eventCategories => exact skipsUnset_items
  | groupLimit => exact skipsUnset_word

theorem readsInside {block : Block} {keys : List String} (made : block.recordKeys? = some keys) :
    block.codec.ReadsInside keys := by
  cases block with
  | mapServer | eventCategories | groupLimit => contradiction
  | inventoryRoot | libraryRoot =>
      cases made
      exact readsInside_reference Folder.readsOnly_record
  | inventorySkeleton | librarySkeleton =>
      cases made
      exact readsInside_listOf Folder.readsOnly_record
  | libraryOwner =>
      cases made
      exact Folder.readsInside_ownerCodec
  | buddies =>
      cases made
      exact readsInside_listOf Buddy.readsOnly_record
  | gestures =>
      cases made
      exact readsInside_listOf Gesture.readsOnly_record
  | outfit =>
      cases made
      exact readsInside_single Outfit.readsOnly_record _
  | skyTextures =>
      cases made
      exact readsInside_single SkyTextures.readsOnly_record _
  | loginFlags =>
      cases made
      exact readsInside_single LoginFlags.readsOnly_record _
  | viewerSettings =>
      cases made
      exact readsInside_single ViewerSettings.readsOnly_record _
  | categories =>
      cases made
      exact readsInside_listOf Category.readsOnly_record

theorem takesSingleton {block : Block} (single : block.isSingle = true) :
    block.codec.TakesSingleton := by
  cases block with
  | inventoryRoot | libraryRoot => exact takesSingleton_reference _
  | libraryOwner => exact Folder.takesSingleton_ownerCodec
  | outfit | skyTextures | loginFlags | viewerSettings => exact takesSingleton_single _ _
  | _ => contradiction

end Block

namespace Field

def recordKeys? : Field → Option (List String)
  | .core .home => some Home.keys
  | .core _ => none
  | .block member => member.recordKeys?

theorem skipsUnset (field : Field) : field.codec.SkipsUnset := by
  cases field with
  | core member => exact member.skipsUnset
  | block member => exact member.skipsUnset

theorem readsInside {field : Field} {keys : List String} (made : field.recordKeys? = some keys) :
    field.codec.ReadsInside keys := by
  cases field with
  | core member =>
      cases member with
      | home =>
          cases made
          exact Home.readsInside_codec
      | _ => contradiction
  | block member => exact Block.readsInside made

/-- One change to the spelling of what stands at the key of a field. -/
inductive Respells : Field → Option Json → Option Json → Prop where
  | unset (field : Field) {left right : Option Json} (leftUnset : IsUnset left)
      (rightUnset : IsUnset right) : Respells field left right
  | inside {field : Field} {keys : List String} (made : field.recordKeys? = some keys)
      {left right : Json} (inside : Inside keys left right) :
      Respells field (some left) (some right)
  | bare {member : Block} (single : member.isSingle = true) (members : Json.Members) :
      Respells (.block member) (some (.list [.map members])) (some (.map members))
  | truth (value : Bool) :
      Respells (.core .login) (some (.text (truthText value))) (some (.truth value))

theorem Respells.read_eq {field : Field} {left right : Option Json}
    (respells : field.Respells left right) (key : String) :
    field.codec.read key left = field.codec.read key right := by
  cases respells with
  | unset _ leftUnset rightUnset =>
      apply field.skipsUnset.read_congr
      rw [present_of_isUnset leftUnset, present_of_isUnset rightUnset]
  | inside made inside => exact readsInside made key _ _ inside
  | bare single members => exact Block.takesSingleton single key members
  | truth value => exact read_truth_text key value

end Field

/-! ## Whole responses -/

namespace Response

/-- Maps that differ by any number of changes to spellings, and in any way at keys that no field
has. -/
def Respelled (left right : Json.Members) : Prop :=
  ∀ field : Field, Relation.EqvGen field.Respells (left.get? field.key) (right.get? field.key)

theorem readField_of_respelled {left right : Json.Members} (respelled : Respelled left right)
    (field : Field) : readField left field = readField right field := by
  have read {first second : Option Json} (changes : Relation.EqvGen field.Respells first second) :
      field.codec.read field.key first = field.codec.read field.key second := by
    induction changes with
    | rel _ _ change => exact change.read_eq field.key
    | refl _ => rfl
    | symm _ _ _ same => exact same.symm
    | trans _ _ _ _ _ same next => exact same.trans next
  exact read (respelled field)

theorem firstError?_congr {left right : Json.Members}
    (same : ∀ field, readField left field = readField right field) (fields : List Field) :
    firstError? left fields = firstError? right fields := by
  induction fields with
  | nil => rfl
  | cons first rest induction => rw [firstError?, firstError?, same first, induction]

/-- Maps that are spelled in different ways are read as the same response, or fail with the same
error. -/
theorem ofMembers_of_respelled {left right : Json.Members} (respelled : Respelled left right) :
    ofMembers left = ofMembers right := by
  have same := readField_of_respelled respelled
  simp only [ofMembers, firstError?_congr same, same]

def terse : Json.Members := [
  ("home", .map [("region_handle", .text "[r1,r2]")]),
  ("inventory-skeleton", .list [.map [("name", .text "Sounds")], .map [("name", .text "Notes")]]),
  ("login", .truth true),
  ("login-flags", .map [("gendered", .text "Y")])]

def lavish : Json.Members := [
  ("agent_id", .null),
  ("first_name", .text "None"),
  ("home", .map [("look_at", .text "None"), ("position", .null),
    ("region_handle", .text "[r1,r2]"), ("street", .truth true)]),
  ("inventory-skeleton", .list [.map [("name", .text "Sounds")],
    .map [("color", .null), ("name", .text "Notes"), ("version", .null)]]),
  ("login", .text "true"),
  ("login-flags", .list [.map [("ever_logged_in", .text "None"), ("gendered", .text "Y")]]),
  ("motto", .text "Onward")]

theorem respelled_lavish : Respelled terse lavish := by
  intro field
  have unchanged (same : terse.get? field.key = lavish.get? field.key) :
      Relation.EqvGen field.Respells (terse.get? field.key) (lavish.get? field.key) :=
    same ▸ .refl _
  cases field with
  | core member =>
      cases member with
      | login => exact .symm _ _ (.rel _ _ (.truth true))
      | firstName => exact .rel _ _ (.unset _ .absent .named)
      | agent => exact .rel _ _ (.unset _ .absent .null)
      | home =>
          have same : SameAt Home.keys [("region_handle", .text "[r1,r2]")]
              [("look_at", .text "None"), ("position", .null),
                ("region_handle", .text "[r1,r2]"), ("street", .truth true)] := by
            simp only [SameAt, Home.keys, List.forall_mem_cons]
            exact ⟨.inl rfl, .inr ⟨.absent, .null⟩, .inr ⟨.absent, .named⟩, List.forall_mem_nil _⟩
          exact .rel _ _ (.inside rfl (.alone same))
      | _ => exact unchanged (by decide +kernel)
  | block member =>
      cases member with
      | inventorySkeleton =>
          have same : SameAt Folder.keys [("name", .text "Notes")]
              [("color", .null), ("name", .text "Notes"), ("version", .null)] := by
            simp only [SameAt, Folder.keys, List.forall_mem_cons]
            exact ⟨.inl rfl, .inl rfl, .inl rfl, .inl rfl, .inr ⟨.absent, .null⟩,
              List.forall_mem_nil _⟩
          exact .rel _ _ (.inside rfl (.listed [.map [("name", .text "Sounds")]] [] same))
      | loginFlags =>
          have same : SameAt LoginFlags.keys [("gendered", .text "Y")]
              [("ever_logged_in", .text "None"), ("gendered", .text "Y")] := by
            simp only [SameAt, LoginFlags.keys, List.forall_mem_cons]
            exact ⟨.inl rfl, .inr ⟨.absent, .named⟩, .inl rfl, .inl rfl, .inl rfl,
              List.forall_mem_nil _⟩
          exact .trans _ _ _ (.rel _ _ (.inside rfl (.alone same)))
            (.symm _ _ (.rel _ _ (.bare rfl _)))
      | _ => exact unchanged (by decide +kernel)

theorem ofMembers_of_respelled_lavish :
    Respelled terse lavish ∧ terse ≠ lavish ∧ (ofMembers terse).isOk = true ∧
      ofMembers terse = ofMembers lavish :=
  ⟨respelled_lavish, by decide +kernel, by decide +kernel, ofMembers_of_respelled respelled_lavish⟩

end Response

end ViewerLogin
