import ViewerLogin.Proofs.Home.Section
import ViewerLogin.Proofs.Response.Insertion

/-!
# Homes in a response

A home comes as a map of its parts or as one text of sections. Both forms that are written for a
home are read as the same home, and of any text of sections it is known which home it gives or
which of its sections fails.
-/

namespace ViewerLogin

open Home (Part Section)
open Wire (normalCoordinate tag untag)

/-! ## Coordinates that are kept -/

namespace Wire

theorem normalCoordinate_eq_self_iff {text : String} :
    normalCoordinate (some text) = some text ↔
      text ≠ "" ∧ text ≠ "None" ∧ Text.trimEnd text = text := by
  rw [normalCoordinate, Option.map_some, Option.filter_some]
  constructor
  · intro kept
    split at kept
    · next holds =>
        have trimmed : Text.trimEnd text = text := Option.some.inj kept
        rw [trimmed] at holds
        have both := of_decide_eq_true holds
        exact ⟨both.1, both.2, trimmed⟩
    · contradiction
  · rintro ⟨nonempty, different, trimmed⟩
    rw [trimmed, if_pos (decide_eq_true ⟨nonempty, different⟩)]

end Wire

namespace Home

theorem partCoordinates_normal (home : Home) (part : Part) :
    home.normal.partCoordinates part = (home.partCoordinates part).map normalCoordinate := by
  cases part <;> rfl

theorem mem_coordinates_iff {home : Home} {coordinate : Coordinate} :
    coordinate ∈ home.coordinates ↔ ∃ part, coordinate ∈ home.partCoordinates part := by
  rw [coordinates, List.mem_append, List.mem_append]
  constructor
  · rintro ((inRegion | inPosition) | inLookAt)
    · exact ⟨.region, inRegion⟩
    · exact ⟨.position, inPosition⟩
    · exact ⟨.lookAt, inLookAt⟩
  · rintro ⟨part, member⟩
    cases part with
    | region => exact .inl (.inl member)
    | position => exact .inl (.inr member)
    | lookAt => exact .inr member

/-- A home is its own normal form exactly when each of its coordinates is. -/
theorem normal_eq_self_iff {home : Home} :
    home.normal = home ↔ ∀ each ∈ home.coordinates, normalCoordinate each = each := by
  constructor
  · intro same each member
    rcases mem_coordinates_iff.mp member with ⟨part, inPart⟩
    have parts := home.partCoordinates_normal part
    rw [same] at parts
    have kept : (home.partCoordinates part).map normalCoordinate =
        (home.partCoordinates part).map id := by
      rw [← parts, List.map_id]
    exact List.map_inj_left.mp kept each inPart
  · intro kept
    refine ext_partCoordinates fun part => ?_
    rw [partCoordinates_normal]
    refine (List.map_congr_left fun each member => ?_).trans (List.map_id _)
    exact kept each (mem_coordinates_iff.mpr ⟨part, member⟩)

/-! ## The sections of a home -/

def sectionOf (home : Home) (part : Part) : Section :=
  ⟨.single, part.label,
    (home.partCoordinates part).map fun coordinate => String.ofList (tag coordinate)⟩

def sections (home : Home) : List Section := Part.all.map home.sectionOf

theorem inside_sectionOf (home : Home) (part : Part) :
    (home.sectionOf part).inside = Text.join [','] ((home.partCoordinates part).map tag) := by
  simp [sectionOf, Section.inside, Function.comp_def]

theorem text_sections (home : Home) : Section.text home.sections = home.legacyText := by
  have characters (part : Part) : (home.sectionOf part).characters =
      writeSection part.label (home.partCoordinates part) := by
    rw [Section.characters, Section.opened, inside_sectionOf, writeSection]
    simp [Section.quotedLabel, sectionOf, Quote.character]
  rw [Section.text, legacyText, legacyCharacters]
  simp only [sections, Part.all, List.map_cons, List.map_nil, characters]
  rfl

/-- In front of every coordinate stands its tag, so that no bracket is taken for another. -/
theorem legible_sectionOf {home : Home}
    (clear : ∀ text, some text ∈ home.coordinates → ',' ∉ text.toList ∧ ']' ∉ text.toList)
    (part : Part) : (home.sectionOf part).Legible := by
  have tagClear : ∀ coordinate ∈ home.partCoordinates part,
      ',' ∉ tag coordinate ∧ ']' ∉ tag coordinate := by
    intro coordinate member
    cases coordinate with
    | none => decide +kernel
    | some text =>
        have textClear := clear text (mem_coordinates_iff.mpr ⟨part, member⟩)
        exact ⟨List.not_mem_cons_of_ne_of_not_mem (by decide) textClear.1,
          List.not_mem_cons_of_ne_of_not_mem (by decide) textClear.2⟩
  refine ⟨?_, ?_, ?_, ?_⟩
  · have labels : ∀ part : Part, part.label.toList.all (fun each =>
        decide (each ≠ ':' ∧ each ≠ ']' ∧ isQuote each = false ∧ Text.isBlank each = false)) =
          true := by
      intro part
      cases part <;> decide +kernel
    exact fun each member => of_decide_eq_true (List.all_eq_true.mp (labels part) each member)
  · intro written member
    rcases List.mem_map.mp member with ⟨coordinate, inPart, rfl⟩
    rw [String.toList_ofList]
    exact (tagClear coordinate inPart).1
  · rw [inside_sectionOf]
    have begins : ∃ rest, Text.join [','] ((home.partCoordinates part).map tag) = 'r' :: rest := by
      cases part <;> exact ⟨_, rfl⟩
    rcases begins with ⟨rest, begins⟩
    rw [begins, List.dropWhile_cons_of_neg (by decide)]
    exact fun same => absurd (Option.some.inj same) (by decide)
  · rw [inside_sectionOf]
    intro member
    rcases Text.mem_join member with inSeparator | ⟨_, inPieces, inPiece⟩
    · exact absurd inSeparator (by decide)
    · rcases List.mem_map.mp inPieces with ⟨coordinate, inPart, rfl⟩
      exact (tagClear coordinate inPart).2 inPiece

theorem found_sectionOf (home : Home) (part : Part) :
    (home.sectionOf part).found = (home.partCoordinates part).map normalCoordinate := by
  simp [sectionOf, Section.found, Function.comp_def, Wire.untag_tag]

theorem fault?_sectionOf (home : Home) (part : Part) : (home.sectionOf part).fault? = none := by
  have length : (home.sectionOf part).coordinates.length = part.size := by
    rw [sectionOf, List.length_map]
    exact Part.length_toList (home.part part)
  have label : (home.sectionOf part).label = part.label := rfl
  rw [Section.fault?, label, Part.ofLabel?_label, Option.filter_some, if_neg]
  simpa using length

theorem last?_sections (home : Home) (part : Part) :
    Section.last? home.sections part = some (home.sectionOf part) := by
  cases part <;> simp [Section.last?, sections, Part.all, sectionOf, Part.label]

/-- The text form of a home reads as its normal form. -/
theorem readText_legacyText {home : Home}
    (clear : ∀ text, some text ∈ home.coordinates → ',' ∉ text.toList ∧ ']' ∉ text.toList)
    (key : String) : readText key home.legacyText.toList = .ok home.normal := by
  have legible : ∀ written ∈ home.sections, written.Legible := by
    intro written member
    rcases List.mem_map.mp member with ⟨part, _, rfl⟩
    exact legible_sectionOf clear part
  have sound : Section.firstFault? home.sections = none := by
    refine List.findSome?_eq_none_iff.mpr fun written member => ?_
    rcases List.mem_map.mp member with ⟨part, _, rfl⟩
    exact home.fault?_sectionOf part
  rcases Section.collect_of_sound legible sound key unset with ⟨after, read, parts⟩
  have same : after = home.normal := by
    refine ext_partCoordinates fun part => ?_
    rw [parts, last?_sections, Option.map_some, Option.getD_some, found_sectionOf,
      partCoordinates_normal]
  rw [← text_sections, Section.readText_text legible, read, same]

theorem partCoordinates_unset (part : Part) :
    unset.partCoordinates part = List.replicate part.size none := by
  cases part <;> rfl

theorem read_text (key : String) (sections : List Section) :
    codec.read key (some (.text (Section.text sections))) =
      readText key (Section.text sections).toList := by
  have different : Section.text sections ≠ Wire.placeholder := by
    intro same
    have characters := congrArg String.toList same
    rw [Section.text, String.toList_ofList] at characters
    exact absurd (List.cons.inj characters).1 (by decide)
  have isPresent := Wire.present_text_of_ne different
  simp only [codec, isPresent]

end Home

/-! ## Sections without special characters -/

namespace Home.Section

/-- A section whose label and coordinates have none of the characters that are around them. -/
structure Plain (written : Section) : Prop where
  label : ∀ each ∈ written.label.toList,
    isQuote each = false ∧ each ∉ "[]\x7b\x7d,:".toList ∧ Text.isBlank each = false
  coordinates : ∀ coordinate ∈ written.coordinates, ∀ each ∈ coordinate.toList,
    each ∉ ",[]".toList

instance (written : Section) : Decidable written.Plain :=
  decidable_of_iff
    ((written.label.toList.all fun each =>
        !isQuote each && !("[]\x7b\x7d,:".toList.contains each || Text.isBlank each)) = true ∧
      (written.coordinates.all fun coordinate =>
        coordinate.toList.all fun each => !",[]".toList.contains each) = true)
    ⟨fun checks => ⟨by simpa [List.all_eq_true] using checks.1,
        by simpa [List.all_eq_true] using checks.2⟩,
      fun plain => ⟨by simpa [List.all_eq_true] using plain.label,
        by simpa [List.all_eq_true] using plain.coordinates⟩⟩

theorem Plain.legible {written : Section} (plain : written.Plain) : written.Legible := by
  have clear (character : Char) (special : character ∈ ",[]".toList) :
      ∀ coordinate ∈ written.coordinates, character ∉ coordinate.toList :=
    fun coordinate member inCoordinate =>
      plain.coordinates coordinate member character inCoordinate special
  have notInside (character : Char) (special : character ∈ ",[]".toList)
      (different : character ∉ [',']) : character ∉ written.inside := by
    intro member
    rcases Text.mem_join member with inSeparator | ⟨_, inPieces, inPiece⟩
    · exact different inSeparator
    · rcases List.mem_map.mp inPieces with ⟨coordinate, inCoordinates, rfl⟩
      exact clear character special coordinate inCoordinates inPiece
  refine ⟨fun each member => ?_, clear ',' (by decide +kernel),
    .of_not_mem (notInside '[' (by decide +kernel) (by decide))
      (notInside ']' (by decide +kernel) (by decide))⟩
  rcases plain.label each member with ⟨noQuote, ordinary, visible⟩
  refine ⟨?_, ?_, noQuote, visible⟩
  · rintro rfl
    exact ordinary (by decide +kernel)
  · rintro rfl
    exact ordinary (by decide +kernel)

end Home.Section

/-! ## Whole responses -/

namespace Response

/-- The home is read first, so that its error is that of the whole map. -/
theorem ofMembers_of_home_error {members : Json.Members} {error : Wire.Error}
    (fails : readField members (.core .home) = .error error) :
    ofMembers members = .error error := by
  have first : firstError? members Field.readingOrder = some error := by
    rw [show Field.readingOrder = .core .home :: Field.readingOrder.tail from rfl, firstError?,
      fails]
  rw [ofMembers, first]

theorem readField_insert_home (members : Json.Members) (value : Json) :
    readField (members.insert "home" value) (.core .home) = Home.codec.read "home" (some value) :=
  readField_insert_same members (.core .home) value

/-- In a map whose other keys can be read, a home is read from its own key. -/
theorem ofMembers_insert_home {members : Json.Members} {before : Json} {base : Response}
    (valid : ofMembers (members.insert "home" before) = .ok base) (value : Json) :
    ofMembers (members.insert "home" value) =
      (Home.codec.read "home" (some value)).map fun home => { base with home } := by
  have validAt : ofMembers (members.insert (Field.core .home).key before) = .ok base := valid
  exact ofMembers_insert validAt value

theorem ofMembers_home {value : Json} {home : Home}
    (read : Home.codec.read "home" (some value) = .ok home) :
    ofMembers [("home", value)] = .ok { unset with home := home } := by
  have alone : [("home", value)] = Json.Members.insert [] "home" value := rfl
  have inserted := ofMembers_insert_home (ofMembers_insert_nil (.core .home)) value
  rw [read] at inserted
  rw [alone]
  exact inserted

/-- The two forms of a home are read as the same home, which is its normal form. The text form
brings a home back as it was exactly when none of its coordinates is empty, spelled like the
placeholder or followed by blanks. -/
theorem ofMembers_legacyText {home : Home}
    (clear : ∀ text, some text ∈ home.coordinates → ',' ∉ text.toList ∧ ']' ∉ text.toList) :
    ofMembers [("home", .text home.legacyText)] = .ok { unset with home := home.normal } ∧
      ofMembers [("home", home.toJson)] = .ok { unset with home := home.normal } ∧
      (ofMembers [("home", .text home.legacyText)] = .ok { unset with home := home } ↔
        ∀ text, some text ∈ home.coordinates →
          text ≠ "" ∧ text ≠ "None" ∧ Text.trimEnd text = text) := by
  have textRead : ofMembers [("home", .text home.legacyText)] =
      .ok { unset with home := home.normal } := by
    apply ofMembers_home
    rw [← home.text_sections, Home.read_text, home.text_sections, Home.readText_legacyText clear]
  have mapRead : ofMembers [("home", home.toJson)] = .ok { unset with home := home.normal } :=
    ofMembers_home (home.reads_codec "home")
  refine ⟨textRead, mapRead, ?_⟩
  rw [textRead]
  constructor
  · intro same text member
    have kept : home.normal = home := congrArg Response.home (Except.ok.inj same)
    exact Wire.normalCoordinate_eq_self_iff.mp (Home.normal_eq_self_iff.mp kept _ member)
  · intro tidy
    have kept : home.normal = home := by
      refine Home.normal_eq_self_iff.mpr fun each member => ?_
      cases each with
      | none => rfl
      | some text => exact Wire.normalCoordinate_eq_self_iff.mpr (tidy text member)
    rw [kept]

def quaint : Home :=
  ⟨⟨some "'position':[", some "\x7b 1"⟩, ⟨some " 2", some "3 ", none⟩,
    ⟨some "None", some "", some "r4"⟩⟩

theorem ofMembers_legacyText_quaint :
    (∀ text, some text ∈ quaint.coordinates → ',' ∉ text.toList ∧ ']' ∉ text.toList) ∧
      ofMembers [("home", .text quaint.legacyText)] =
        .ok { unset with home :=
          ⟨⟨some "'position':[", some "\x7b 1"⟩, ⟨some " 2", some "3", none⟩,
            ⟨none, none, some "r4"⟩⟩ } := by
  have clear : ∀ text, some text ∈ quaint.coordinates → ',' ∉ text.toList ∧ ']' ∉ text.toList := by
    have all : ∀ each ∈ quaint.coordinates, ∀ text ∈ each,
        ',' ∉ text.toList ∧ ']' ∉ text.toList := by decide +kernel
    exact fun text member => all _ member text rfl
  refine ⟨clear, (ofMembers_legacyText clear).1.trans ?_⟩
  decide +kernel

/-- A text of sections fails with the first section that has a known label and the wrong number
of coordinates, whatever else is in the map. Without such a section the last one for each part
gives its coordinates, and parts that have none are unset. Sections with other labels may as
well be missing. -/
theorem ofMembers_sections {sections : List Section}
    (plain : ∀ written ∈ sections, written.Plain) :
    (∀ part, Section.firstFault? sections = some part → ∀ members : Json.Members,
        ofMembers (members.insert "home" (.text (Section.text sections))) =
          .error (.wrongLength ("home." ++ part.label) part.size)) ∧
      (Section.firstFault? sections = none →
        ∃ home : Home,
          (∀ part, home.partCoordinates part =
            ((Section.last? sections part).map fun written =>
              written.coordinates.map fun coordinate => untag coordinate.toList).getD
                (List.replicate part.size none)) ∧
          ∀ (members : Json.Members) before base,
            ofMembers (members.insert "home" before) = .ok base →
              ofMembers (members.insert "home" (.text (Section.text sections))) =
                .ok { base with home := home }) ∧
      ∀ members : Json.Members,
        ofMembers (members.insert "home" (.text (Section.text sections))) =
          ofMembers (members.insert "home" (.text (Section.text
            (sections.filter fun written => (Part.ofLabel? written.label).isSome)))) := by
  have legible : ∀ written ∈ sections, written.Legible :=
    fun written member => (plain written member).legible
  have read : Home.codec.read "home" (some (.text (Section.text sections))) =
      Section.collect "home" .unset sections := by
    rw [Home.read_text, Section.readText_text legible]
  refine ⟨?_, ?_, ?_⟩
  · intro part faulty members
    apply ofMembers_of_home_error
    refine (readField_insert_home members _).trans (read.trans ?_)
    exact Section.collect_of_fault legible faulty "home" .unset
  · intro sound
    rcases Section.collect_of_sound legible sound "home" .unset with ⟨home, collected, parts⟩
    refine ⟨home, fun part => ?_, fun members before base valid => ?_⟩
    · rw [parts, Home.partCoordinates_unset]
      rfl
    · have inserted := ofMembers_insert_home valid (.text (Section.text sections))
      rw [read, collected] at inserted
      exact inserted
  · intro members
    have legibleKnown : ∀ written ∈
        sections.filter fun written => (Part.ofLabel? written.label).isSome, written.Legible :=
      fun written member => legible written (List.mem_of_mem_filter member)
    have sameRead : Home.codec.read "home" (some (.text (Section.text sections))) =
        Home.codec.read "home" (some (.text (Section.text
          (sections.filter fun written => (Part.ofLabel? written.label).isSome)))) := by
      rw [read, Home.read_text, Section.readText_text legibleKnown, Section.collect_filter]
    exact ofMembers_insert_congr members (Field.core .home) sameRead

def patchwork : List Section := [
  ⟨.double, "position", ["r9", " r8", "7 "]⟩, ⟨.single, "mood", []⟩,
  ⟨.single, "look_at", ["rr1", "None", ""]⟩, ⟨.single, "position", ["r1", "\x7b2", "':"]⟩]

theorem ofMembers_sections_patchwork :
    (∀ written ∈ patchwork, written.Plain) ∧
      ofMembers [("home", .text (Section.text patchwork))] =
        .ok { unset with home :=
          ⟨.unset, ⟨some "1", some "\x7b2", some "':"⟩, ⟨some "r1", none, none⟩⟩ } := by
  have plain : ∀ written ∈ patchwork, written.Plain := by decide +kernel
  rcases (ofMembers_sections plain).2.1 (by decide +kernel) with ⟨home, parts, read⟩
  have same : home =
      ⟨.unset, ⟨some "1", some "\x7b2", some "':"⟩, ⟨some "r1", none, none⟩⟩ := by
    refine Home.ext_partCoordinates fun part => (parts part).trans ?_
    cases part <;> decide +kernel
  refine ⟨plain, ?_⟩
  rw [← same]
  exact read [] .null unset (ofMembers_insert_nil (.core .home))

end Response

end ViewerLogin
