import ViewerLogin.Proofs.Response.Decoding
import ViewerLogin.Proofs.Wire.Stable
import ViewerLogin.Proofs.Wire.Tidy

/-!
# Responses that were read

Maps from other grids spell their values in many ways. Whatever was read of them, the response
that it makes is written in a way that reads as the same response.
-/

namespace ViewerLogin

open Wire (bind_eq_ok_iff)
open Wire.Codec

/-! ## Homes -/

namespace Home

theorem tidy_unset : unset.Tidy := tidy_iff.mpr (by decide)

theorem tidy_of_readMap {key : String} {members : Json.Members} {home : Home}
    (read : readMap key members = .ok home) : home.Tidy := by
  simp only [readMap, bind_eq_ok_iff] at read
  rcases read with ⟨region, regionRead, position, positionRead, lookAt, lookAtRead, same⟩
  cases same
  exact tidy_iff.mpr ⟨Place.tidy_of_read regionRead, Point.tidy_of_read positionRead,
    Point.tidy_of_read lookAtRead⟩

theorem tidy_of_readSection {key : String} {home after : Home} {label : List Char}
    {found : List Coordinate} (tidy : home.Tidy) (foundTidy : ∀ each ∈ found, Wire.Tidy each)
    (read : readSection key home label found = .ok after) : after.Tidy := by
  rcases tidy_iff.mp tidy with ⟨region, position, lookAt⟩
  unfold readSection at read
  split at read
  · split at read
    · next gathered =>
        cases read
        exact tidy_iff.mpr ⟨Place.toList_of_ofList? _ _ gathered ▸ foundTidy, position, lookAt⟩
    · contradiction
  · split at read
    · split at read
      · next gathered =>
          cases read
          exact tidy_iff.mpr ⟨region, Point.toList_of_ofList? _ _ gathered ▸ foundTidy, lookAt⟩
      · contradiction
    · split at read
      · split at read
        · next gathered =>
            cases read
            exact tidy_iff.mpr ⟨region, position, Point.toList_of_ofList? _ _ gathered ▸ foundTidy⟩
        · contradiction
      · cases read
        exact tidy

theorem tidy_of_readSections {key : String} {home after : Home} {pieces : List (List Char)}
    (tidy : home.Tidy) (read : readSections key home pieces = .ok after) : after.Tidy := by
  induction pieces generalizing home with
  | nil =>
      cases read
      exact tidy
  | cons piece rest induction =>
      rw [readSections] at read
      split at read
      · exact induction tidy read
      · next label values _ =>
          split at read
          · contradiction
          · next next sectionRead =>
              exact induction
                (tidy_of_readSection tidy (Wire.tidy_splitCoordinates values) sectionRead) read

theorem tidy_of_read {key : String} {slot : Option Json} {home : Home}
    (read : codec.read key slot = .ok home) : home.Tidy := by
  simp only [codec] at read
  split at read
  · cases read
    exact tidy_unset
  · exact tidy_of_readMap read
  · exact tidy_of_readSections tidy_unset read
  · contradiction

theorem stable_codec : codec.Stable := by
  intro key slot home read
  have reads := home.reads_codec
  rwa [normal_eq_self (tidy_of_read read)] at reads

end Home

theorem Point.stable_codec : Wire.Codec.point.Stable := by
  intro key slot point read
  have reads := reads_point point
  rwa [Point.normal_eq_self (Point.tidy_of_read read)] at reads

/-! ## Records with texts -/

theorem Folder.stable_record : Folder.record.Stable := by
  intro members folder read
  simp only [record, bind_eq_ok_iff] at read
  rcases read with ⟨id, _, parent, _, name, nameRead, assetType, _, version, _, same⟩
  cases same
  have reads := Folder.reads_record ⟨id, parent, name, assetType, version⟩
  rwa [normal, normalText_of_read nameRead] at reads

theorem Outfit.stable_record : Outfit.record.Stable := by
  intro members outfit read
  simp only [record, bind_eq_ok_iff] at read
  rcases read with ⟨folderName, folderNameRead, gender, genderRead, same⟩
  cases same
  have reads := Outfit.reads_record ⟨folderName, gender⟩
  rwa [normal, normalText_of_read folderNameRead, normalText_of_read genderRead] at reads

theorem Category.stable_record : Category.record.Stable := by
  intro members category read
  simp only [record, bind_eq_ok_iff] at read
  rcases read with ⟨id, _, name, nameRead, same⟩
  cases same
  refine reads_record fun unnamed => ?_
  have kept := normalText_of_read (required_eq_ok_iff.mp nameRead)
  rw [show name = Wire.placeholder from unnamed, Wire.normalText_placeholder] at kept
  contradiction

/-! ## Fields -/

theorem CoreField.stable (field : CoreField) : field.codec.Stable := by
  cases field with
  | home => exact Home.stable_codec
  | lookAt => exact Point.stable_codec
  | seedCapability | firstName | lastName | startLocation | message => exact stable_text
  | _ => exact stable_of_reads (CoreField.reads _)

theorem Block.stable (block : Block) : block.codec.Stable := by
  cases block with
  | inventoryRoot | libraryRoot => exact stable_reference Folder.stable_record
  | inventorySkeleton | librarySkeleton => exact stable_listOf Folder.stable_record
  | mapServer => exact stable_text
  | outfit => exact stable_single Outfit.stable_record (Outfit.reads_record .unset)
  | categories => exact stable_listOf Category.stable_record
  | _ => exact stable_of_reads fun value => Block.reads _ value not_false

theorem Field.stable (field : Field) : field.codec.Stable := by
  cases field with
  | core member => exact member.stable
  | block member => exact member.stable

/-! ## Whole responses -/

namespace Response

/-- A map is read as a response exactly when each of its fields is what its own key gives. -/
theorem ofMembers_eq_ok_iff {members : Json.Members} {response : Response} :
    ofMembers members = .ok response ↔
      ∀ field, readField members field = .ok (response.value field) := by
  refine ⟨fun read field => ?_, ofMembers_eq_ok⟩
  unfold ofMembers at read
  split at read
  · contradiction
  · next clear =>
      rcases firstError?_eq_none_iff.mp clear field field.mem_readingOrder with ⟨value, fieldRead⟩
      cases read
      simp only [value_ofFields, fieldRead]

/-- A response whose fields all read back as they are does so as well, whichever blocks are
sent of it. -/
theorem ofMembers_of_reads {response : Response}
    (reads : ∀ field : Field, field.codec.Reads (response.value field) (response.value field))
    (blocks : List Block) :
    ofMembers (response.toMembersWith blocks) = .ok (response.restrict blocks) := by
  refine ofMembers_eq_ok fun field => ?_
  by_cases member : field ∈ Field.sent blocks
  · rw [readField_of_mem member (reads field), value_restrict_of_mem _ member]
  · rw [readField_of_not_mem response member, value_restrict_of_not_mem _ member]

/-- What was read of any map stays the same however often it is written and read again. -/
theorem ofMembers_stable {members : Json.Members} {response : Response}
    (read : ofMembers members = .ok response) :
    (∀ blocks, ofMembers (response.toMembersWith blocks) = .ok (response.restrict blocks)) ∧
      ofMembers response.toMembers = .ok response := by
  have reads (field : Field) :
      field.codec.Reads (response.value field) (response.value field) :=
    field.stable _ _ _ (ofMembers_eq_ok_iff.mp read field)
  refine ⟨ofMembers_of_reads reads, ?_⟩
  rw [toMembers, ofMembers_of_reads reads, restrict_all]

def foreign : Json.Members := .ofList [
  ("home", .text ("\x7b'region_handle':[r256000,r256000], 'position':[128 ,r128,25], " ++
    "'look_at':[r1,r0,r0]\x7d")),
  ("look_at", .list [.number (.integer 1), .text " r0 ", .text "None"]),
  ("first_name", .text "None"),
  ("sim_port", .text " 9000 "),
  ("login", .truth true),
  ("login-flags", .map [("ever_logged_in", .text "Y")]),
  ("classified_categories", .list [.map [("category_id", .text "1"),
    ("category_name", .text "Shopping")]])]

theorem ofMembers_stable_foreign :
    let response : Response :=
      { unset with
        home := ⟨.of "256000" "256000", .of "128" "128" "25", .of "1" "0" "0"⟩
        lookAt := ⟨some "1", some "0", none⟩
        simPort := some 9000
        login := some true
        loginFlags := { LoginFlags.unset with everLoggedIn := some true }
        categories := [⟨1, "Shopping"⟩] }
    ofMembers foreign = .ok response ∧ response.toMembers ≠ foreign ∧
      ofMembers response.toMembers = .ok response := by
  intro response
  have read : ofMembers foreign = .ok response := by decide +kernel
  exact ⟨read, by decide +kernel, (ofMembers_stable read).2⟩

end Response

end ViewerLogin
