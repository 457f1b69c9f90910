import ViewerLogin.Proofs.Home.Part
import ViewerLogin.Proofs.Wire.Bracketed

/-!
# The sections of a home

The text form of a home is a list of sections, each a label in quotes with coordinates in
brackets. Reading takes them one after the other: the first section that has a known label but
not the right number of coordinates ends it, and otherwise each part is what the last section
with its label says.
-/

namespace ViewerLogin

open Wire (fields untag)

namespace Home

inductive Quote where
  | single
  | double
  deriving DecidableEq, Repr

def Quote.character : Quote → Char
  | .single => '\''
  | .double => '\x22'

structure Section where
  quote : Quote
  label : String
  coordinates : List String
  deriving DecidableEq, Repr

namespace Section

/-! ## Writing -/

def inside (written : Section) : List Char :=
  Text.join [','] (written.coordinates.map String.toList)

def quotedLabel (written : Section) : List Char :=
  written.quote.character :: written.label.toList ++ [written.quote.character]

def opened (written : Section) : List Char :=
  written.quotedLabel ++ ':' :: '[' :: written.inside

def characters (written : Section) : List Char := written.opened ++ [']']

def text (sections : List Section) : String :=
  String.ofList ('\x7b' :: Text.join ", ".toList (sections.map characters) ++ ['\x7d'])

example : text [⟨.double, "look_at", ["r1", "0", ""]⟩, ⟨.single, "mood", []⟩] =
    "\x7b\"look_at\":[r1,0,], 'mood':[]\x7d" := by decide +kernel

/-- What makes a section readable: its label cannot be confused with what is around it, no
coordinate has a comma or a closing bracket, and the first does not begin with an opening one. -/
structure Legible (written : Section) : Prop where
  label : ∀ each ∈ written.label.toList,
    each ≠ ':' ∧ each ≠ ']' ∧ isQuote each = false ∧ Text.isBlank each = false
  commas : ∀ coordinate ∈ written.coordinates, ',' ∉ coordinate.toList
  brackets : Wire.Open written.inside

/-! ## Reading one section -/

variable {written : Section}

theorem isQuote_quote (quote : Quote) : isQuote quote.character = true := by
  cases quote <;> decide

theorem isBlank_quote (quote : Quote) : Text.isBlank quote.character = false := by
  cases quote <;> decide

theorem forall_mem_quotedLabel {property : Char → Prop}
    (quotes : ∀ quote : Quote, property quote.character)
    (label : ∀ each ∈ written.label.toList, property each) :
    ∀ each ∈ written.quotedLabel, property each := by
  rw [quotedLabel, List.forall_mem_append, List.forall_mem_cons]
  exact ⟨⟨quotes _, label⟩, List.forall_mem_singleton.mpr (quotes _)⟩

namespace Legible

theorem labelOf_quotedLabel (legible : written.Legible) {blanks : List Char}
    (blank : ∀ each ∈ blanks, Text.isBlank each = true) :
    labelOf (blanks ++ written.quotedLabel) = written.label.toList := by
  have visible : ∀ each ∈ written.quotedLabel, Text.isBlank each = false :=
    forall_mem_quotedLabel isBlank_quote fun each member => (legible.label each member).2.2.2
  have noQuote : ∀ each ∈ written.label.toList, isQuote each = false :=
    fun each member => (legible.label each member).2.2.1
  have trimmed : Text.trimCharacters (blanks ++ written.quotedLabel) = written.quotedLabel := by
    have nothing : ∀ each ∈ ([] : List Char), Text.isBlank each = true := nofun
    have between := Text.trimCharacters_between blank visible nothing
    rwa [List.append_nil] at between
  have kept : written.label.toList.dropWhile isQuote = written.label.toList :=
    Text.dropWhile_of_head? fun first begins => noQuote first (List.mem_of_mem_head? begins)
  rw [labelOf, trimmed, quotedLabel, List.cons_append,
    List.dropWhile_cons_of_pos (isQuote_quote _), List.dropWhile_append, kept]
  split
  · next nothing =>
      rw [List.isEmpty_iff.mp nothing, List.dropWhile_cons_of_pos (isQuote_quote _)]
      rfl
  · rw [Text.dropEndWhile_append_of_pos (isQuote_quote _), Text.dropEndWhile_of_forall noQuote]

theorem colon_not_mem (legible : written.Legible) : ':' ∉ written.quotedLabel := by
  have clear : ∀ each ∈ written.quotedLabel, each ≠ ':' :=
    forall_mem_quotedLabel (fun quote => by cases quote <;> decide)
      fun each member => (legible.label each member).1
  exact fun member => clear _ member rfl

theorem bracket_not_mem (legible : written.Legible) : ']' ∉ written.opened := by
  have clear : ∀ each ∈ written.quotedLabel, each ≠ ']' :=
    forall_mem_quotedLabel (fun quote => by cases quote <;> decide)
      fun each member => (legible.label each member).2.1
  intro member
  rcases List.mem_append.mp member with inLabel | inRest
  · exact clear _ inLabel rfl
  · have inInside : ']' ∈ written.inside := by simpa using inRest
    exact legible.brackets.close inInside

end Legible

/-- A section with blanks in front of it sets its part, whatever its brackets left of the
coordinates. -/
theorem readSections_cons (legible : written.Legible) {blanks values : List Char}
    (blank : ∀ each ∈ blanks, Text.isBlank each = true)
    (split : Wire.splitCoordinates values = fields written.inside) (key : String) (home : Home)
    (rest : List (List Char)) :
    readSections key home ((blanks ++ written.quotedLabel ++ ':' :: '[' :: values) :: rest) =
      readSection key home written.label.toList (fields written.inside) >>= fun after =>
        readSections key after rest := by
  have clear : ':' ∉ blanks ++ written.quotedLabel := by
    intro member
    rcases List.mem_append.mp member with inBlanks | inLabel
    · exact absurd (blank _ inBlanks) (by decide)
    · exact legible.colon_not_mem inLabel
  rw [readSections, Text.cutAtPair?_of_not_mem clear]
  simp only [legible.labelOf_quotedLabel blank, split]
  cases readSection key home written.label.toList (fields written.inside) <;> rfl

/-! ## Reading all sections -/

def collect (key : String) (home : Home) : List Section → Except Wire.Error Home
  | [] => .ok home
  | first :: rest =>
      readSection key home first.label.toList (fields first.inside) >>= fun after =>
        collect key after rest

/-- Sections that are joined are read one after the other. The last keeps its bracket, and all
but the first have a blank in front. -/
theorem readSections_join {sections : List Section} (nonempty : sections ≠ [])
    (legible : ∀ written ∈ sections, written.Legible) {blanks : List Char}
    (blank : ∀ each ∈ blanks, Text.isBlank each = true) (key : String) (home : Home) :
    readSections key home
        (Text.splitAtPair ']' ',' (blanks ++ Text.join ", ".toList (sections.map characters))) =
      collect key home sections := by
  -- The blank that joins two sections is in front of the second, so the blanks are arbitrary.
  induction sections generalizing blanks home with
  | nil => contradiction
  | cons first rest induction =>
      have firstLegible := legible first List.mem_cons_self
      have clear : ']' ∉ blanks ++ first.opened := by
        intro member
        rcases List.mem_append.mp member with inBlanks | inOpened
        · exact absurd (blank _ inBlanks) (by decide)
        · exact firstLegible.bracket_not_mem inOpened
      cases rest with
      | nil =>
          have closed := firstLegible.brackets.splitCoordinates_closed
          have read := readSections_cons firstLegible blank closed key home []
          rw [List.map_singleton, Text.join, characters, ← List.append_assoc,
            Text.splitAtPair_last clear]
          simpa [opened, collect, readSections] using read
      | cons next others =>
          have bare := firstLegible.brackets.splitCoordinates_bare
          have space : ∀ each ∈ [' '], Text.isBlank each = true :=
            List.forall_mem_singleton.mpr (by decide)
          have step (after : Home) := induction (List.cons_ne_nil _ _)
            (fun written member => legible written (List.mem_cons_of_mem _ member)) space after
          have layout :
              blanks ++ Text.join ", ".toList ((first :: next :: others).map characters) =
                (blanks ++ first.opened) ++ ']' :: ',' ::
                  ([' '] ++ Text.join ", ".toList ((next :: others).map characters)) := by
            simp [Text.join, characters]
          rw [layout, Text.splitAtPair_append clear, opened, ← List.append_assoc,
            readSections_cons firstLegible blank bare, collect]
          simp only [step]

theorem join_begins (first : Section) (rest : List Section) :
    ∃ tail, Text.join ", ".toList ((first :: rest).map characters) =
      first.quote.character :: tail := by
  cases rest with
  | nil => exact ⟨_, rfl⟩
  | cons next others => exact ⟨_, rfl⟩

theorem join_ends (first : Section) (rest : List Section) :
    ∃ front, Text.join ", ".toList ((first :: rest).map characters) = front ++ [']'] := by
  induction rest generalizing first with
  | nil => exact ⟨first.opened, rfl⟩
  | cons next others induction =>
      rcases induction next with ⟨front, ends⟩
      refine ⟨first.characters ++ ", ".toList ++ front, ?_⟩
      rw [List.append_assoc, ← ends]
      rfl

theorem readText_text {sections : List Section} (legible : ∀ written ∈ sections, written.Legible)
    (key : String) : readText key (text sections).toList = collect key unset sections := by
  have trimmed : Text.trimCharacters (text sections).toList = (text sections).toList := by
    rw [text, String.toList_ofList]
    exact Text.trimCharacters_enclosed (by decide) (by decide) _
  rw [readText, trimmed, text, String.toList_ofList, List.cons_append,
    List.dropWhile_cons_of_pos (by decide)]
  cases sections with
  | nil => rfl
  | cons first rest =>
      have noBlank : ∀ each ∈ ([] : List Char), Text.isBlank each = true := nofun
      have read := readSections_join (List.cons_ne_nil _ _) legible noBlank key unset
      rcases join_begins first rest with ⟨tail, begins⟩
      rcases join_ends first rest with ⟨front, ends⟩
      have kept (after : List Char) : (first.quote.character :: after).dropWhile (· == '\x7b') =
          first.quote.character :: after := by
        cases first.quote <;> rfl
      rw [begins, List.cons_append, kept, ← List.cons_append,
        ← begins, Text.dropEndWhile_append_of_pos (by decide), ends,
        Text.dropEndWhile_append_of_neg (by decide), ← ends]
      exact read

/-! ## What a section sets -/

def found (written : Section) : List Coordinate :=
  written.coordinates.map fun coordinate => untag coordinate.toList

theorem fields_inside (legible : written.Legible) (nonempty : written.coordinates ≠ []) :
    fields written.inside = written.found := by
  have commas : ∀ piece ∈ written.coordinates.map String.toList, ',' ∉ piece := by
    intro piece member
    rcases List.mem_map.mp member with ⟨coordinate, inCoordinates, rfl⟩
    exact legible.commas coordinate inCoordinates
  rw [inside, Wire.fields_join (by simpa using nonempty) commas, List.map_map]
  rfl

theorem fields_inside_of_nil (none : written.coordinates = []) :
    fields written.inside = [.none] := by
  rw [inside, none]
  exact Wire.fields_nil

theorem readSection_label (key : String) (home : Home) (part : Part) (found : List Coordinate) :
    readSection key home part.label.toList found =
      (part.ofList? found).elim (.error (.wrongLength (partKey key part.label) part.size))
        fun value => .ok (home.setPart part value) := by
  unfold readSection
  cases part with
  | region =>
      rw [if_pos (by decide +kernel)]
      cases gathered : Place.ofList? found <;> simp only [Part.ofList?, gathered] <;> rfl
  | position =>
      rw [if_neg (by decide +kernel), if_pos (by decide +kernel)]
      cases gathered : Point.ofList? found <;> simp only [Part.ofList?, gathered] <;> rfl
  | lookAt =>
      rw [if_neg (by decide +kernel), if_neg (by decide +kernel), if_pos (by decide +kernel)]
      cases gathered : Point.ofList? found <;> simp only [Part.ofList?, gathered] <;> rfl

theorem readSection_of_unknown {label : String} (unknown : Part.ofLabel? label = none)
    (key : String) (home : Home) (found : List Coordinate) :
    readSection key home label.toList found = .ok home := by
  have different (part : Part) : label.toList ≠ part.label.toList := by
    intro same
    rw [String.toList_inj.mp same, part.ofLabel?_label] at unknown
    contradiction
  have region : label.toList ≠ "region_handle".toList := different .region
  have position : label.toList ≠ "position".toList := different .position
  have lookAt : label.toList ≠ "look_at".toList := different .lookAt
  rw [readSection, if_neg region, if_neg position, if_neg lookAt]

/-! ## What all sections set -/

def fault? (written : Section) : Option Part :=
  (Part.ofLabel? written.label).filter fun part => written.coordinates.length ≠ part.size

def firstFault? (sections : List Section) : Option Part := sections.findSome? fault?

def last? (sections : List Section) (part : Part) : Option Section :=
  (sections.filter (·.label = part.label)).getLast?

theorem last?_cons (first : Section) (rest : List Section) (part : Part) :
    last? (first :: rest) part =
      (last? rest part).or (if first.label = part.label then some first else none) := by
  rw [last?, last?, List.filter_cons]
  by_cases same : first.label = part.label
  · simp only [same, decide_true, if_true, List.getLast?_cons]
    cases (rest.filter (·.label = part.label)).getLast? <;> rfl
  · simp [same]

theorem readSection_of_fault {part : Part} (legible : written.Legible)
    (faulty : written.fault? = some part) (key : String) (home : Home) :
    readSection key home written.label.toList (fields written.inside) =
      .error (.wrongLength (partKey key part.label) part.size) := by
  rcases Option.filter_eq_some_iff.mp faulty with ⟨known, misfits⟩
  have wrong : written.coordinates.length ≠ part.size := by simpa using misfits
  have length : (fields written.inside).length ≠ part.size := by
    by_cases nothing : written.coordinates = []
    · rw [fields_inside_of_nil nothing]
      cases part <;> decide
    · rw [fields_inside legible nothing, found, List.length_map]
      exact wrong
  rw [Part.ofLabel?_eq_some_iff.mp known, readSection_label, Part.ofList?_eq_none length]
  rfl

/-- A section without a fault sets the part it is labelled for and leaves the others. -/
theorem readSection_of_sound (legible : written.Legible) (sound : written.fault? = none)
    (key : String) (home : Home) :
    ∃ after, readSection key home written.label.toList (fields written.inside) = .ok after ∧
      ∀ part, after.partCoordinates part =
        if written.label = part.label then written.found else home.partCoordinates part := by
  cases known : Part.ofLabel? written.label with
  | none =>
      refine ⟨home, readSection_of_unknown known key home _, fun part => ?_⟩
      rw [if_neg]
      intro same
      rw [Part.ofLabel?_eq_some_iff.mpr same] at known
      contradiction
  | some labelled =>
      have label := Part.ofLabel?_eq_some_iff.mp known
      have fits : written.coordinates.length = labelled.size := by
        simpa [fault?, known, Option.filter_some] using sound
      have nonempty : written.coordinates ≠ [] := by
        rintro nothing
        rw [nothing] at fits
        cases labelled <;> contradiction
      have foundFits : written.found.length = labelled.size := by
        rw [found, List.length_map, fits]
      rcases Part.exists_ofList? foundFits with ⟨value, gathered, coordinates⟩
      refine ⟨home.setPart labelled value, ?_, fun part => ?_⟩
      · rw [fields_inside legible nonempty, label, readSection_label, gathered]
        rfl
      · rw [label]
        by_cases same : part = labelled
        · subst same
          rw [if_pos rfl, partCoordinates, part_setPart_same, coordinates]
        · rw [if_neg fun labels => same (Part.label_injective labels).symm, partCoordinates,
            part_setPart_other home same, partCoordinates]

theorem collect_of_fault {sections : List Section} {part : Part}
    (legible : ∀ written ∈ sections, written.Legible)
    (faulty : firstFault? sections = some part) (key : String) (home : Home) :
    collect key home sections = .error (.wrongLength (partKey key part.label) part.size) := by
  induction sections generalizing home with
  | nil => contradiction
  | cons first rest induction =>
      have firstLegible := legible first List.mem_cons_self
      have restLegible : ∀ written ∈ rest, written.Legible :=
        fun written member => legible written (List.mem_cons_of_mem _ member)
      rw [collect]
      cases outcome : first.fault? with
      | some fault =>
          have same : fault = part := by simpa [firstFault?, outcome] using faulty
          rw [readSection_of_fault firstLegible outcome, same]
          rfl
      | none =>
          have inRest : firstFault? rest = some part := by
            simpa [firstFault?, outcome] using faulty
          rcases readSection_of_sound firstLegible outcome key home with ⟨after, read, _⟩
          rw [read]
          exact induction restLegible inRest after

/-- Without a fault each part is that of its last section, or what it was. -/
theorem collect_of_sound {sections : List Section}
    (legible : ∀ written ∈ sections, written.Legible) (sound : firstFault? sections = none)
    (key : String) (home : Home) :
    ∃ after, collect key home sections = .ok after ∧
      ∀ part, after.partCoordinates part =
        ((last? sections part).map found).getD (home.partCoordinates part) := by
  induction sections generalizing home with
  | nil => exact ⟨home, rfl, fun _ => rfl⟩
  | cons first rest induction =>
      have firstLegible := legible first List.mem_cons_self
      have restLegible : ∀ written ∈ rest, written.Legible :=
        fun written member => legible written (List.mem_cons_of_mem _ member)
      have bothSound : first.fault? = none ∧ firstFault? rest = none := by
        simpa [firstFault?] using sound
      rcases readSection_of_sound firstLegible bothSound.1 key home with ⟨next, read, nextParts⟩
      rcases induction restLegible bothSound.2 next with ⟨after, restRead, afterParts⟩
      refine ⟨after, ?_, fun part => ?_⟩
      · rw [collect, read]
        exact restRead
      · rw [afterParts, nextParts, last?_cons]
        cases last? rest part with
        | some written => rfl
        | none => by_cases same : first.label = part.label <;> simp [same]

/-- Sections with a label that is not known may as well be missing. -/
theorem collect_filter (key : String) (home : Home) (sections : List Section) :
    collect key home (sections.filter fun written => (Part.ofLabel? written.label).isSome) =
      collect key home sections := by
  induction sections generalizing home with
  | nil => rfl
  | cons first rest induction =>
      rw [List.filter_cons]
      cases known : Part.ofLabel? first.label with
      | some part =>
          rw [Option.isSome_some, if_pos rfl, collect, collect]
          exact congrArg _ (funext fun after => induction after)
      | none =>
          rw [Option.isSome_none, if_neg Bool.false_ne_true, collect,
            readSection_of_unknown known, induction]
          rfl

end Section

end Home

end ViewerLogin
