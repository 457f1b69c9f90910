import ViewerLogin.Proofs.Response.Insertion
import ViewerLogin.Proofs.Wire.Integer

/-!
# Integers in a response

A response has integers at keys of its own and integers in the records of its blocks. Each has a
type; wherever it stands it is read as itself or named in the error.
-/

namespace ViewerLogin

open Wire (Carries Codec Position Record Replaces TakesIntegers)

/-! ## Rights -/

namespace Rights

/-- Exactly the bits that have a meaning are kept. -/
theorem bits_ofBits (value : Nat) : (ofBits value).bits = value &&& every.bits := by
  have masked : value &&& every.bits = value % 8 := Nat.and_two_pow_sub_one_eq_mod value 3
  rw [masked]
  simp only [ofBits, ofPredicate, bits, Right.bit, Nat.toNat_testBit]
  omega

/-- What is below 32 bits is read bit by bit, and negative integers have no bits. -/
theorem ofWire_of_lt {number : Int} (narrow : number < 0x100000000) :
    ofWire number = ofBits number.toNat := by
  rw [ofWire]
  split
  · rfl
  · next outside =>
      have negative : number.toNat = 0 := by omega
      rw [negative]
      rfl

end Rights

theorem Buddy.takesIntegers_rights (key : String) :
    TakesIntegers (fun value => rights.read key (some value)) key
      (-0x8000000000000000) 0x8000000000000000 fun number granted =>
        number < 0x100000000 → granted = Rights.ofBits number.toNat := by
  have takes : TakesIntegers
      (fun value => (Codec.word : Codec (Option Int64)).read key (some value)) key
      (-0x8000000000000000) 0x8000000000000000 fun number result =>
        result.map Wire.Word.toInt = some number := Codec.takesIntegers_word key
  refine takes.map _ fun number result shows narrow => ?_
  rcases Option.map_eq_some_iff.mp shows with ⟨word, rfl, same⟩
  rw [← Rights.ofWire_of_lt narrow, ← same]
  rfl

/-! ## Integers in records -/

namespace Folder

theorem replaces_assetType :
    Replaces assetTypeCodec "type_default" (fun folder assetType => { folder with assetType })
      record.read := by
  unfold record
  iterate 3 refine Replaces.bind_other (by decide) fun _ => ?_
  apply Replaces.bind_same
  exact Carries.bind (by decide) fun _ => Carries.pure fun _ _ => rfl

theorem replaces_version :
    Replaces Codec.word "version" (fun folder version => { folder with version })
      record.read := by
  unfold record
  iterate 4 refine Replaces.bind_other (by decide) fun _ => ?_
  apply Replaces.bind_same
  exact Carries.pure fun _ _ => rfl

theorem takesIntegers_assetType :
    record.TakesIntegersAt "type_default" (-0x80000000) 0x80000000 fun number folder =>
      Wire.Word.toInt folder.assetType = number := by
  apply replaces_assetType.takesIntegersAt
  · exact Codec.takesIntegers_withDefault anyType (Codec.takesIntegers_word "type_default")
  · exact fun _ _ _ shows => shows

theorem takesIntegers_version :
    record.TakesIntegersAt "version" 0 0x100000000 fun number folder =>
      folder.version.map Wire.Word.toInt = some number := by
  apply replaces_version.takesIntegersAt
  · exact Codec.takesIntegers_word "version"
  · exact fun _ _ _ shows => shows

end Folder

theorem Category.replaces_id :
    Replaces Codec.word.required "category_id" (fun category id => { category with id })
      record.read := by
  unfold record
  apply Replaces.bind_same
  exact Carries.bind (by decide) fun _ => Carries.pure fun _ _ => rfl

theorem Category.takesIntegers_id :
    record.TakesIntegersAt "category_id" (-0x80000000) 0x80000000 fun number category =>
      Wire.Word.toInt category.id = number := by
  apply replaces_id.takesIntegersAt
  · exact Codec.takesIntegers_required (Codec.takesIntegers_word "category_id")
  · exact fun _ _ _ shows => shows

theorem LoginFlags.replaces_clock :
    Replaces Codec.word "seconds_since_epoch" (fun flags clock => { flags with clock })
      record.read := by
  unfold record
  iterate 4 refine Replaces.bind_other (by decide) fun _ => ?_
  apply Replaces.bind_same
  exact Carries.pure fun _ _ => rfl

theorem LoginFlags.takesIntegers_clock :
    record.TakesIntegersAt "seconds_since_epoch" 0 0x10000000000000000 fun number flags =>
      flags.clock.map Wire.Word.toInt = some number := by
  apply replaces_clock.takesIntegersAt
  · exact Codec.takesIntegers_word "seconds_since_epoch"
  · exact fun _ _ _ shows => shows

namespace Buddy

theorem replaces_given :
    Replaces rights "buddy_rights_given" (fun buddy given => { buddy with given })
      record.read := by
  unfold record
  apply Replaces.bind_other (by decide)
  intro id
  apply Replaces.bind_same
  exact Carries.bind (by decide) fun _ => Carries.pure fun _ _ => rfl

theorem replaces_has :
    Replaces rights "buddy_rights_has" (fun buddy has => { buddy with has }) record.read := by
  unfold record
  iterate 2 refine Replaces.bind_other (by decide) fun _ => ?_
  apply Replaces.bind_same
  exact Carries.pure fun _ _ => rfl

theorem takesIntegers_given :
    record.TakesIntegersAt "buddy_rights_given" (-0x8000000000000000) 0x8000000000000000
      fun number buddy =>
        number < 0x100000000 → buddy.given = Rights.ofBits number.toNat := by
  apply replaces_given.takesIntegersAt (takesIntegers_rights _)
  exact fun _ _ _ shows => shows

theorem takesIntegers_has :
    record.TakesIntegersAt "buddy_rights_has" (-0x8000000000000000) 0x8000000000000000
      fun number buddy =>
        number < 0x100000000 → buddy.has = Rights.ofBits number.toNat := by
  apply replaces_has.takesIntegersAt (takesIntegers_rights _)
  exact fun _ _ _ shows => shows

end Buddy

/-! ## Places of integers -/

inductive FolderBlock where
  | inventoryRoot
  | inventorySkeleton
  | libraryRoot
  | librarySkeleton
  deriving DecidableEq, Repr

namespace FolderBlock

@[reducible] def block : FolderBlock → Block
  | .inventoryRoot => .inventoryRoot
  | .inventorySkeleton => .inventorySkeleton
  | .libraryRoot => .libraryRoot
  | .librarySkeleton => .librarySkeleton

def keepsAll : FolderBlock → Bool
  | .inventoryRoot | .libraryRoot => false
  | .inventorySkeleton | .librarySkeleton => true

def folderAt? : (block : FolderBlock) → block.block.Value → Nat → Option Folder
  | .inventoryRoot, folder, _ | .libraryRoot, folder, _ => folder
  | .inventorySkeleton, folders, index | .librarySkeleton, folders, index => folders[index]?

theorem holdsRecords (block : FolderBlock) :
    block.block.codec.HoldsRecords Folder.record block.folderAt? block.keepsAll := by
  cases block with
  | inventoryRoot | libraryRoot => exact Codec.holdsRecords_reference Folder.record
  | inventorySkeleton | librarySkeleton => exact Codec.holdsRecords_listOf Folder.record

end FolderBlock

inductive IntegerPlace where
  | simPort
  | httpPort
  | regionX
  | regionY
  | regionSizeX
  | regionSizeY
  | circuitCode
  | groupLimit
  | assetType (block : FolderBlock)
  | version (block : FolderBlock)
  | category
  | clock
  | given
  | has
  deriving DecidableEq, Repr

structure Surroundings where
  members : Json.Members
  position : Position
  entry : Json.Members

namespace IntegerPlace

def field : IntegerPlace → Field
  | .simPort => .core .simPort
  | .httpPort => .core .httpPort
  | .regionX => .core .regionX
  | .regionY => .core .regionY
  | .regionSizeX => .core .regionSizeX
  | .regionSizeY => .core .regionSizeY
  | .circuitCode => .core .circuitCode
  | .groupLimit => .block .groupLimit
  | .assetType block | .version block => .block block.block
  | .category => .block .categories
  | .clock => .block .loginFlags
  | .given | .has => .block .buddies

def key : IntegerPlace → String
  | .simPort => "sim_port"
  | .httpPort => "http_port"
  | .regionX => "region_x"
  | .regionY => "region_y"
  | .regionSizeX => "region_size_x"
  | .regionSizeY => "region_size_y"
  | .circuitCode => "circuit_code"
  | .groupLimit => "max-agent-groups"
  | .assetType _ => "type_default"
  | .version _ => "version"
  | .category => "category_id"
  | .clock => "seconds_since_epoch"
  | .given => "buddy_rights_given"
  | .has => "buddy_rights_has"

def low : IntegerPlace → Int
  | .assetType _ | .category => -0x80000000
  | .given | .has => -0x8000000000000000
  | _ => 0

def limit : IntegerPlace → Int
  | .simPort | .httpPort => 0x10000
  | .regionX | .regionY | .regionSizeX | .regionSizeY | .circuitCode => 0x100000000
  | .groupLimit | .version _ => 0x100000000
  | .assetType _ | .category => 0x80000000
  | .clock => 0x10000000000000000
  | .given | .has => 0x8000000000000000

def keepsAll : IntegerPlace → Bool
  | .assetType block | .version block => block.keepsAll
  | .clock => false
  | _ => true

def enclose (around : Surroundings) (value : Json) (place : IntegerPlace) : Json :=
  match place with
  | .simPort | .httpPort | .regionX | .regionY | .regionSizeX | .regionSizeY | .circuitCode
  | .groupLimit => value
  | _ => around.position.enclose (around.entry.insert place.key value)

def put (place : IntegerPlace) (around : Surroundings) (value : Json) : Json.Members :=
  around.members.insert place.field.key (place.enclose around value)

/-- The integer that a response has, in the record at this index if it is in a record. Rights are
taken as their bits. -/
def shown (place : IntegerPlace) (response : Response) (index : Nat) : Option Int :=
  match place with
  | .simPort => response.simPort.map Wire.Word.toInt
  | .httpPort => response.httpPort.map Wire.Word.toInt
  | .regionX => response.regionX.map Wire.Word.toInt
  | .regionY => response.regionY.map Wire.Word.toInt
  | .regionSizeX => response.regionSizeX.map Wire.Word.toInt
  | .regionSizeY => response.regionSizeY.map Wire.Word.toInt
  | .circuitCode => response.circuitCode.map Wire.Word.toInt
  | .groupLimit => response.groupLimit.map Wire.Word.toInt
  | .assetType block =>
      (block.folderAt? (response.value (.block block.block)) index).map fun folder =>
        Wire.Word.toInt folder.assetType
  | .version block =>
      (block.folderAt? (response.value (.block block.block)) index).bind fun folder =>
        folder.version.map Wire.Word.toInt
  | .category => response.categories[index]?.map fun category => Wire.Word.toInt category.id
  | .clock => response.loginFlags.clock.map Wire.Word.toInt
  | .given => response.buddies[index]?.map fun buddy => buddy.given.bits
  | .has => response.buddies[index]?.map fun buddy => buddy.has.bits

def IsRights (place : IntegerPlace) : Prop := place = .given ∨ place = .has

/-- What is kept of an integer: of rights the bits that have a meaning, and else all of it. -/
def kept (number : Int) : IntegerPlace → Int
  | .given | .has => ((number.toNat &&& Rights.every.bits : Nat) : Int)
  | _ => number

end IntegerPlace

/-- What is taken in the value of a field is taken in the whole map, and no other field is
touched. -/
theorem Response.takesIntegers_insert {members : Json.Members} {field : Field}
    (enclose : Json → Json) {before : Json} {base : Response} {key : String} {low limit : Int}
    {Shows : Int → field.Value → Prop}
    (valid : ofMembers (members.insert field.key (enclose before)) = .ok base)
    (takes : TakesIntegers (fun value => field.codec.read field.key (some (enclose value)))
      key low limit Shows) :
    TakesIntegers (fun value => ofMembers (members.insert field.key (enclose value)))
      key low limit fun number response =>
        (∀ other ≠ field, response.value other = base.value other) ∧
          Shows number (response.value field) := by
  refine (takes.map (base.set field) fun number found shows => ⟨?_, ?_⟩).of_eq fun value =>
    ofMembers_insert valid (enclose value)
  · exact fun other different => value_set_other base different found
  · rwa [value_set_same]

namespace IntegerPlace

theorem takesIntegers_field (place : IntegerPlace) (around : Surroundings) {before : Json}
    {base : place.field.Value}
    (valid : place.field.codec.read place.field.key (some (place.enclose around before)) =
      .ok base) :
    TakesIntegers
      (fun value => place.field.codec.read place.field.key (some (place.enclose around value)))
      place.key place.low place.limit fun number found =>
        ∀ response : Response, response.value place.field = found →
          place.keepsAll = true ∨ around.position.index = 0 →
          (place.IsRights → number < 0x100000000) →
            place.shown response around.position.index = some (place.kept number) := by
  cases place with
  | simPort | httpPort | regionX | regionY | regionSizeX | regionSizeY | circuitCode
  | groupLimit =>
      refine (Codec.takesIntegers_word _).mono fun number found shows response same _ _ => ?_
      cases same
      exact shows
  | category =>
      refine ((Codec.holdsRecords_listOf _).takesIntegers Category.takesIntegers_id valid).mono
        fun number found shows response same keeps _ => ?_
      cases same
      rcases shows (.inl rfl) with ⟨category, atIndex, rfl⟩
      exact congrArg (Option.map fun category => Wire.Word.toInt category.id) atIndex
  | clock =>
      refine ((Codec.holdsRecords_single _ _).takesIntegers LoginFlags.takesIntegers_clock
        valid).mono fun number found shows response same keeps _ => ?_
      cases same
      rcases shows keeps with ⟨flags, here, isNumber⟩
      cases here
      exact isNumber
  | given =>
      refine ((Codec.holdsRecords_listOf _).takesIntegers Buddy.takesIntegers_given valid).mono
        fun number found shows response same keeps narrow => ?_
      cases same
      rcases shows (.inl rfl) with ⟨buddy, atIndex, granted⟩
      have bits : buddy.given.bits = number.toNat &&& Rights.every.bits := by
        rw [granted (narrow (.inl rfl)), Rights.bits_ofBits]
      rw [kept, ← bits]
      exact congrArg (Option.map fun buddy => (buddy.given.bits : Int)) atIndex
  | has =>
      refine ((Codec.holdsRecords_listOf _).takesIntegers Buddy.takesIntegers_has valid).mono
        fun number found shows response same keeps narrow => ?_
      cases same
      rcases shows (.inl rfl) with ⟨buddy, atIndex, granted⟩
      have bits : buddy.has.bits = number.toNat &&& Rights.every.bits := by
        rw [granted (narrow (.inr rfl)), Rights.bits_ofBits]
      rw [kept, ← bits]
      exact congrArg (Option.map fun buddy => (buddy.has.bits : Int)) atIndex
  | assetType block =>
      refine (block.holdsRecords.takesIntegers Folder.takesIntegers_assetType valid).mono
        fun number found shows response same keeps _ => ?_
      cases same
      rcases shows keeps with ⟨folder, here, rfl⟩
      exact congrArg (Option.map fun folder => Wire.Word.toInt folder.assetType) here
  | version block =>
      refine (block.holdsRecords.takesIntegers Folder.takesIntegers_version valid).mono
        fun number found shows response same keeps _ => ?_
      cases same
      rcases shows keeps with ⟨folder, here, isNumber⟩
      exact Option.bind_eq_some_iff.mpr ⟨folder, here, isNumber⟩

/-- Where every other key can be read, an integer is read as itself wherever it stands, as number
or as text, when its type has it; rights below 32 bits keep the bits that have a meaning. Any
other integer is named in the error, and numbers and texts that are no integers are refused. -/
theorem takesIntegers_put (place : IntegerPlace) (around : Surroundings) {before : Json}
    {base : Response} (valid : Response.ofMembers (place.put around before) = .ok base) :
    TakesIntegers (fun value => Response.ofMembers (place.put around value))
      place.key place.low place.limit fun number response =>
        (∀ other ≠ place.field, response.value other = base.value other) ∧
          (place.keepsAll = true ∨ around.position.index = 0 →
            (place.IsRights → number < 0x100000000) →
              place.shown response around.position.index = some (place.kept number)) := by
  have fieldValid : place.field.codec.read place.field.key
      (some (place.enclose around before)) = .ok (base.value place.field) :=
    (Response.readField_insert_same around.members place.field _).symm.trans
      (Response.ofMembers_eq_ok_iff.mp valid place.field)
  have taken := Response.takesIntegers_insert (fun value => place.enclose around value) valid
    (place.takesIntegers_field around fieldValid)
  refine taken.mono fun number response shows => ⟨shows.1, fun keeps narrow => ?_⟩
  exact shows.2 response rfl keeps narrow

def soleFriend : Surroundings :=
  ⟨[], .listed [] [], [("buddy_id", .text "00000000-0000-0000-0000-000000000001")]⟩

theorem takesIntegers_put_soleFriend :
    (∃ base, Response.ofMembers (put .given soleFriend .null) = .ok base) ∧
      (∃ response,
        Response.ofMembers (put .given soleFriend (.text " +00255\t")) = .ok response ∧
        shown .given response 0 = some 7) ∧
      Response.ofMembers (put .given soleFriend (.ofInt 9223372036854775808)) =
        .error (.invalid "buddy_rights_given" "9223372036854775808") ∧
      Response.ofMembers (put .given soleFriend (.text "7.0")) =
        .error (.wrongShape "buddy_rights_given" .integer) := by
  have readable : (Response.ofMembers (put .given soleFriend .null)).map (fun _ => ()) =
      .ok () := by decide +kernel
  rcases Wire.map_eq_ok_iff.mp readable with ⟨base, valid, _⟩
  have takes := takesIntegers_put .given soleFriend valid
  have padded : Wire.Spells (.text " +00255\t") 255 :=
    Wire.integer?_eq_some_iff.mp (by decide +kernel)
  have noInteger (number : Int) : ¬Wire.Spells (.text "7.0") number := by
    intro spells
    have held := Wire.integer?_eq_some_iff.mpr spells
    have nothing : Codec.integer? (.text "7.0") = none := by decide +kernel
    rw [nothing] at held
    contradiction
  refine ⟨⟨base, valid⟩, ?_, ?_, ?_⟩
  · rcases takes.fits padded (by decide) (by decide) with ⟨response, read, _, shows⟩
    exact ⟨response, read, shows (.inl rfl) fun _ => by decide⟩
  · exact takes.exceeds (.number _) (by decide)
  · exact takes.refuses (by decide +kernel) noInteger

/-- Rights from 32 bits on lose the bits that have a meaning. -/
theorem shown_put_wide :
    low .given ≤ 4294967297 ∧ 4294967297 < limit .given ∧ kept 4294967297 .given = 1 ∧
      ∃ response,
        Response.ofMembers (put .given soleFriend (.ofInt 4294967297)) = .ok response ∧
        shown .given response 0 = some 0 := by
  have grants : (Response.ofMembers (put .given soleFriend (.ofInt 4294967297))).map
      (fun response => shown .given response 0) = .ok (some 0) := by decide +kernel
  rcases Wire.map_eq_ok_iff.mp grants with ⟨response, read, nothing⟩
  exact ⟨by decide, by decide, by decide, response, read, nothing⟩

end IntegerPlace

end ViewerLogin
