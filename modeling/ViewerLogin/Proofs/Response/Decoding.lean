import ViewerLogin.Proofs.Response.Normal
import ViewerLogin.Response.Canonical

/-!
# Responses read back

A response that was written for some blocks reads as the normal form of what those blocks and
the core fields hold. Reading fails in one case only, which is a category without a name.
-/

namespace ViewerLogin

/-! ## Fields and their keys -/

namespace Field

theorem eq_of_key_eq {left right : Field} (same : left.key = right.key) : left = right :=
  List.inj_on_of_nodup_map keys_nodup (mem_readingOrder left) (mem_readingOrder right) same

def sent (blocks : List Block) : List Field := CoreField.all.map .core ++ blocks.map .block

theorem core_mem_sent (field : CoreField) (blocks : List Block) : .core field ∈ sent blocks :=
  List.mem_append_left _ (List.mem_map_of_mem field.mem_all)

theorem block_mem_sent {member : Block} {blocks : List Block} :
    .block member ∈ sent blocks ↔ member ∈ blocks := by
  simp [sent]

end Field

namespace Response

/-! ## What is read -/

/-- The blocks that are not in the list are unset. -/
def restrict (response : Response) (blocks : List Block) : Response := ofFields fun
  | .core field => response.coreValue field
  | .block block => if block ∈ blocks then response.blockValue block else unsetValue (.block block)

def normal (response : Response) : Response :=
  { response with
    home := response.home.normal
    lookAt := response.lookAt.normal
    seedCapability := Wire.normalText response.seedCapability
    firstName := Wire.normalText response.firstName
    lastName := Wire.normalText response.lastName
    startLocation := Wire.normalText response.startLocation
    inventoryRoot := response.inventoryRoot.map Folder.normal
    inventorySkeleton := response.inventorySkeleton.map Folder.normal
    libraryRoot := response.libraryRoot.map Folder.normal
    librarySkeleton := response.librarySkeleton.map Folder.normal
    mapServer := Wire.normalText response.mapServer
    outfit := response.outfit.normal
    message := Wire.normalText response.message }

theorem value_normal (response : Response) (field : Field) :
    response.normal.value field = field.normal (response.value field) := by
  cases field with
  | core field => cases field <;> rfl
  | block block => cases block <;> rfl

theorem normal_unsetValue (field : Field) : field.normal (unsetValue field) = unsetValue field := by
  cases field with
  | core field => cases field <;> rfl
  | block block => cases block <;> rfl

theorem value_restrict_of_mem (response : Response) {blocks : List Block} {field : Field}
    (member : field ∈ Field.sent blocks) :
    (response.restrict blocks).value field = response.value field := by
  rw [restrict, value_ofFields]
  cases field with
  | core field => rfl
  | block block => exact if_pos (Field.block_mem_sent.mp member)

theorem value_restrict_of_not_mem (response : Response) {blocks : List Block} {field : Field}
    (absent : field ∉ Field.sent blocks) :
    (response.restrict blocks).value field = unsetValue field := by
  rw [restrict, value_ofFields]
  cases field with
  | core field => exact absurd (Field.core_mem_sent field blocks) absent
  | block block => exact if_neg fun member => absent (Field.block_mem_sent.mpr member)

theorem ext_value {left right : Response} (same : ∀ field, left.value field = right.value field) :
    left = right :=
  calc
    left = ofFields left.value := rfl
    _ = ofFields right.value := by rw [funext same]
    _ = right := rfl

theorem restrict_all (response : Response) : response.restrict Block.all = response := by
  apply ext_value
  intro field
  cases field with
  | core field => exact value_restrict_of_mem _ (Field.core_mem_sent field _)
  | block block => exact value_restrict_of_mem _ (Field.block_mem_sent.mpr block.mem_all)

/-! ## Reading one field -/

theorem value_unset (field : Field) : unset.value field = unsetValue field :=
  value_ofFields unsetValue field

theorem readField_of_get? {members : Json.Members} {field : Field} {value : Json}
    (stands : members.get? field.key = some value) :
    readField members field = field.codec.read field.key (some value) :=
  congrArg (field.codec.read field.key) stands

theorem readField_of_absent {members : Json.Members} {field : Field}
    (absent : members.get? field.key = none) : readField members field = .ok (unsetValue field) := by
  rw [readField, Wire.Codec.readAt, absent, field.read_none]

theorem get?_toMembersWith_of_mem (response : Response) {blocks : List Block} {field : Field}
    (member : field ∈ Field.sent blocks) :
    (response.toMembersWith blocks).get? field.key =
      some (field.codec.write (response.value field)) := by
  apply Json.Members.get?_ofList_eq_some
  · exact List.mem_map_of_mem member
  · intro other inPairs
    rcases List.mem_map.mp inPairs with ⟨written, _, same⟩
    rcases Prod.mk.inj same with ⟨sameKey, sameValue⟩
    rw [← sameValue, Field.eq_of_key_eq sameKey]

theorem get?_toMembersWith_of_no_key (response : Response) {blocks : List Block} {key : String}
    (noKey : ∀ field ∈ Field.sent blocks, field.key ≠ key) :
    (response.toMembersWith blocks).get? key = none := by
  apply Json.Members.get?_ofList_eq_none
  intro value inPairs
  rcases List.mem_map.mp inPairs with ⟨field, member, same⟩
  exact noKey field member (Prod.mk.inj same).1

theorem get?_toMembersWith_of_not_mem (response : Response) {blocks : List Block} {field : Field}
    (absent : field ∉ Field.sent blocks) :
    (response.toMembersWith blocks).get? field.key = none :=
  response.get?_toMembersWith_of_no_key fun _ member same =>
    absent (Field.eq_of_key_eq same ▸ member)

theorem readField_of_mem {response : Response} {blocks : List Block} {field : Field}
    {result : field.Value} (member : field ∈ Field.sent blocks)
    (reads : field.codec.Reads (response.value field) result) :
    readField (response.toMembersWith blocks) field = .ok result := by
  rw [readField_of_get? (response.get?_toMembersWith_of_mem member)]
  exact reads _

theorem readField_of_not_mem (response : Response) {blocks : List Block} {field : Field}
    (absent : field ∉ Field.sent blocks) :
    readField (response.toMembersWith blocks) field = .ok (unsetValue field) :=
  readField_of_absent (response.get?_toMembersWith_of_not_mem absent)

def SendsUnnamed (response : Response) (blocks : List Block) : Prop :=
  .categories ∈ blocks ∧ ∃ category ∈ response.categories, category.Unnamed

theorem readField_toMembersWith (response : Response) {blocks : List Block} (field : Field)
    (readable : field = .block .categories → ¬response.SendsUnnamed blocks) :
    readField (response.toMembersWith blocks) field =
      .ok ((response.restrict blocks).normal.value field) := by
  rw [value_normal]
  by_cases member : field ∈ Field.sent blocks
  · rw [value_restrict_of_mem _ member]
    apply readField_of_mem member
    cases field with
    | core field => exact field.reads _
    | block block =>
        refine block.reads _ fun unreadable => ?_
        cases block with
        | categories => exact readable rfl ⟨Field.block_mem_sent.mp member, unreadable⟩
        | _ => exact unreadable
  · rw [value_restrict_of_not_mem _ member, normal_unsetValue, readField_of_not_mem _ member]

theorem readField_categories (response : Response) {blocks : List Block}
    (unnamed : response.SendsUnnamed blocks) :
    readField (response.toMembersWith blocks) (.block .categories) =
      .error (.missing "category_name") := by
  have sent : .block .categories ∈ Field.sent blocks := Field.block_mem_sent.mpr unnamed.1
  rw [readField_of_get? (response.get?_toMembersWith_of_mem sent)]
  have unreadable : Block.Unreadable .categories response.categories := unnamed.2
  exact Block.read_unreadable unreadable _

/-! ## Reading all fields -/

theorem firstError?_eq_none_iff {members : Json.Members} {fields : List Field} :
    firstError? members fields = none ↔
      ∀ field ∈ fields, ∃ value, readField members field = .ok value := by
  induction fields with
  | nil => exact ⟨fun _ => nofun, fun _ => rfl⟩
  | cons first rest induction =>
      rw [firstError?, List.forall_mem_cons]
      cases outcome : readField members first with
      | error error => simp
      | ok value => simpa using induction

/-- The error is that of the first field that cannot be read. -/
theorem firstError?_eq_some_iff {members : Json.Members} {fields : List Field}
    {error : Wire.Error} :
    firstError? members fields = some error ↔
      ∃ before failing after, fields = before ++ failing :: after ∧
        (∀ field ∈ before, ∃ value, readField members field = .ok value) ∧
        readField members failing = .error error := by
  constructor
  · intro found
    induction fields with
    | nil => contradiction
    | cons first rest induction =>
        rw [firstError?] at found
        cases outcome : readField members first with
        | error firstError =>
            rw [outcome] at found
            cases found
            exact ⟨[], first, rest, rfl, List.forall_mem_nil _, outcome⟩
        | ok value =>
            rw [outcome] at found
            obtain ⟨before, failing, after, split, reads, fails⟩ := induction found
            refine ⟨first :: before, failing, after, congrArg (first :: ·) split, ?_, fails⟩
            exact List.forall_mem_cons.mpr ⟨⟨value, outcome⟩, reads⟩
  · intro ⟨before, failing, after, split, reads, fails⟩
    subst split
    induction before with
    | nil => rw [List.nil_append, firstError?, fails]
    | cons first rest induction =>
        obtain ⟨⟨value, firstReads⟩, restReads⟩ := List.forall_mem_cons.mp reads
        rw [List.cons_append, firstError?, firstReads]
        exact induction restReads

theorem firstError?_eq_some {members : Json.Members} {failing : Field} {error : Wire.Error}
    (fails : readField members failing = .error error)
    (reads : ∀ field ≠ failing, ∃ value, readField members field = .ok value)
    {fields : List Field} (member : failing ∈ fields) :
    firstError? members fields = some error := by
  obtain ⟨before, after, split, notBefore⟩ := List.eq_append_cons_of_mem member
  refine firstError?_eq_some_iff.mpr ⟨before, failing, after, split, ?_, fails⟩
  intro field inBefore
  exact reads field fun same => notBefore (same ▸ inBefore)

theorem ofMembers_eq_ok {members : Json.Members} {response : Response}
    (reads : ∀ field, readField members field = .ok (response.value field)) :
    ofMembers members = .ok response := by
  rw [ofMembers, firstError?_eq_none_iff.mpr fun field _ => ⟨_, reads field⟩]
  simp only [reads]
  rfl

theorem ofMembers_eq_error {members : Json.Members} {failing : Field} {error : Wire.Error}
    (fails : readField members failing = .error error)
    (reads : ∀ field ≠ failing, ∃ value, readField members field = .ok value) :
    ofMembers members = .error error := by
  rw [ofMembers, firstError?_eq_some fails reads failing.mem_readingOrder]

theorem ofMembers_of_named (response : Response) {blocks : List Block}
    (named : ¬response.SendsUnnamed blocks) :
    ofMembers (response.toMembersWith blocks) = .ok (response.restrict blocks).normal :=
  ofMembers_eq_ok fun field => response.readField_toMembersWith field fun _ => named

theorem ofMembers_of_unnamed (response : Response) {blocks : List Block}
    (unnamed : response.SendsUnnamed blocks) :
    ofMembers (response.toMembersWith blocks) = .error (.missing "category_name") :=
  ofMembers_eq_error (response.readField_categories unnamed) fun field different =>
    ⟨_, response.readField_toMembersWith field fun same => absurd same different⟩

/-! ## Responses without loss -/

def folders (response : Response) : List Folder :=
  response.inventoryRoot.toList ++ response.inventorySkeleton ++ response.libraryRoot.toList ++
    response.librarySkeleton

def optionalTexts (response : Response) : List (Option String) :=
  [response.seedCapability, response.firstName, response.lastName, response.startLocation,
    response.mapServer, response.outfit.folderName, response.outfit.gender, response.message] ++
  response.folders.map Folder.name

def coordinates (response : Response) : List Coordinate :=
  response.home.coordinates ++ response.lookAt.toList

/-- Responses in which no text is spelled like the placeholder, and no coordinate is blank or
has blanks at its end. -/
structure Faithful (response : Response) : Prop where
  texts : ∀ text ∈ response.optionalTexts, text ≠ some Wire.placeholder
  categories : ∀ category ∈ response.categories, category.name ≠ Wire.placeholder
  coordinates : ∀ coordinate ∈ response.coordinates, Wire.Tidy coordinate

namespace Faithful

theorem normalText {response : Response} (faithful : response.Faithful) {text : Option String}
    (member : text ∈ response.optionalTexts) : Wire.normalText text = text := by
  apply Wire.normalText_eq_self
  intro each inText same
  rw [Option.mem_def.mp inText, same] at member
  exact faithful.texts _ member rfl

theorem normalFolder {response : Response} (faithful : response.Faithful) {folder : Folder}
    (member : folder ∈ response.folders) : folder.normal = folder := by
  have named : folder.name ∈ response.optionalTexts :=
    List.mem_append_right _ (List.mem_map_of_mem member)
  rw [Folder.normal, faithful.normalText named]

theorem normalHome {response : Response} (faithful : response.Faithful) :
    response.home.normal = response.home :=
  Home.normal_eq_self fun each member =>
    faithful.coordinates each (List.mem_append_left _ member)

theorem normal_eq_self {response : Response} (faithful : response.Faithful) :
    response.normal = response := by
  have texts : ∀ text ∈ response.optionalTexts, Wire.normalText text = text :=
    fun _ => faithful.normalText
  have folders : ∀ folder ∈ response.folders, folder.normal = folder :=
    fun _ => faithful.normalFolder
  have lookAt : response.lookAt.normal = response.lookAt :=
    Point.normal_eq_self fun each member =>
      faithful.coordinates each (List.mem_append_right _ member)
  simp only [optionalTexts, List.forall_mem_append, List.forall_mem_cons] at texts
  rcases texts with ⟨⟨seed, first, last, start, mapServer, outfitFolder, gender, message, _⟩, _⟩
  simp only [Response.folders, List.forall_mem_append] at folders
  rcases folders with ⟨⟨⟨root, skeleton⟩, libraryRoot⟩, librarySkeleton⟩
  have outfit : response.outfit.normal = response.outfit := by
    rw [Outfit.normal, outfitFolder, gender]
  rw [normal, faithful.normalHome, lookAt, seed, first, last, start, mapServer, message, outfit,
    Folder.map_normal_of_option root, Folder.map_normal_of_option libraryRoot,
    Folder.map_normal_of_list skeleton, Folder.map_normal_of_list librarySkeleton]

theorem named {response : Response} (faithful : response.Faithful) (blocks : List Block) :
    ¬response.SendsUnnamed blocks := by
  rintro ⟨_, category, member, unnamed⟩
  exact faithful.categories category member unnamed

end Faithful

/-! ## What is lost -/

/-- What is written for a list of blocks reads as the normal form of it, unless a category that
is named like the placeholder is among it. A faithful response comes back as it was. -/
theorem ofMembers_toMembersWith (response : Response) (blocks : List Block) :
    ofMembers (response.toMembersWith blocks) =
        (if .categories ∈ blocks ∧
            ∃ category ∈ response.categories, category.name = Wire.placeholder then
          .error (.missing "category_name")
        else
          .ok (response.restrict blocks).normal) ∧
      (response.Faithful → ofMembers response.toMembers = .ok response) := by
  constructor
  · split
    · next unnamed => exact response.ofMembers_of_unnamed unnamed
    · next named => exact response.ofMembers_of_named named
  · intro faithful
    rw [toMembers, response.ofMembers_of_named (faithful.named _), restrict_all,
      faithful.normal_eq_self]

def sample : Response :=
  { unset with
    home := ⟨.of "256000" "256000", .of "128" "128" " 25", .of "1" "0" "0"⟩
    firstName := "Ruth"
    inventoryRoot := some (.of .nil .nil "My Inventory" 8 1)
    categories := [⟨1, "Shopping"⟩] }

theorem ofMembers_toMembers_sample :
    sample.Faithful ∧ ofMembers sample.toMembers = .ok sample := by
  have faithful : sample.Faithful := ⟨by decide, by decide, by decide +kernel⟩
  exact ⟨faithful, (ofMembers_toMembersWith sample Block.all).2 faithful⟩

end Response

end ViewerLogin
