import ViewerLogin.Wire.Codec

/-!
# Inventory

Folders of the inventory and of the library, active gestures and the outfit that new accounts
start with.
-/

namespace ViewerLogin

open Wire (Codec Record)

/-! ## Folders -/

structure Folder where
  id : Option Uuid
  parent : Option Uuid
  name : Option String
  assetType : Int32
  version : Option UInt32
  deriving DecidableEq, Repr

namespace Folder

def anyType : Int32 := -1

def of (id parent : Uuid) (name : String) (assetType : Int32) (version : UInt32) : Folder :=
  ⟨some id, some parent, some name, assetType, some version⟩

def assetTypeCodec : Codec Int32 := Codec.word.withDefault anyType

def record : Record Folder where
  write folder := [
    ("folder_id", Codec.uuid.write folder.id),
    ("parent_id", Codec.uuid.write folder.parent),
    ("name", Codec.text.write folder.name),
    ("type_default", assetTypeCodec.write folder.assetType),
    ("version", Codec.word.write folder.version)]
  read members := do
    return {
      id := ← Codec.uuid.readAt members "folder_id"
      parent := ← Codec.uuid.readAt members "parent_id"
      name := ← Codec.text.readAt members "name"
      assetType := ← assetTypeCodec.readAt members "type_default"
      version := ← Codec.word.readAt members "version" }

def ownerRecord : Record (Option Uuid) where
  write owner := [("agent_id", Codec.uuid.write owner)]
  read members := Codec.uuid.readAt members "agent_id"

/-- An owner that is not set is written as the placeholder, not as a record. -/
def ownerCodec : Codec (Option Uuid) where
  write
    | some owner => .list [ownerRecord.toJson (some owner)]
    | none => Wire.unset
  read key slot := (ownerRecord.readFirst key slot).map Option.join

end Folder

/-! ## Gestures -/

structure Gesture where
  item : Uuid
  asset : Uuid
  deriving DecidableEq, Repr

def Gesture.record : Record Gesture where
  write gesture := [
    ("item_id", Codec.uuid.required.write gesture.item),
    ("asset_id", Codec.uuid.required.write gesture.asset)]
  read members := do
    return {
      item := ← Codec.uuid.required.readAt members "item_id"
      asset := ← Codec.uuid.required.readAt members "asset_id" }

/-! ## Outfits -/

structure Outfit where
  folderName : Option String
  gender : Option String
  deriving DecidableEq, Repr

namespace Outfit

def unset : Outfit := ⟨none, none⟩

def record : Record Outfit where
  write outfit := [
    ("folder_name", Codec.text.write outfit.folderName),
    ("gender", Codec.text.write outfit.gender)]
  read members := do
    return {
      folderName := ← Codec.text.readAt members "folder_name"
      gender := ← Codec.text.readAt members "gender" }

end Outfit

end ViewerLogin
