import Mathlib.Data.List.Forall2
import Mathlib.Logic.Function.Basic
import ViewerLogin.Proofs.Configuration.Entry

/-!
# Configurations as overlays

A document is laid over the standard configuration: what it leaves out stays standard, what it
gives changes one entry and no other, and what no reader looks at changes nothing.
-/

namespace ViewerLogin

open Toml (AgreeAt Reads Shape)

/-! ## What the readers look at -/

/-- The table has a tag as its only key, with nothing in what stands there. -/
def Toml.NamesTier (members : Toml.Members) : Prop :=
  ∃ tag inside maturity, members = [(tag, inside)] ∧ inside.isEmpty = true ∧
    Maturity.ofTag? tag = some maturity

namespace Setting

def categoryShape : Shape := .record (Toml.plain categoryKeys)

def shape : Setting → Shape
  | .libraryOwner | .libraryRoot | .cloudTexture | .sunTexture | .moonTexture => .octets
  | .categories => .listOf categoryShape
  | _ => .whole

theorem reads_category? : Reads categoryShape category? := by
  apply Reads.record
  intro left right agree
  have same : ∀ key ∈ categoryKeys, left.lookup key = right.lookup key := fun _ => agree.lookup_eq
  simp only [Toml.required?, same "id" (by decide), same "name" (by decide)]

theorem reads (setting : Setting) : Reads setting.shape setting.read? := by
  cases setting with
  | libraryOwner | libraryRoot | cloudTexture | sunTexture | moonTexture => exact Toml.reads_octets
  | categories => exact reads_category?.listOf
  | _ => exact Toml.reads_whole _

theorem forall₂_of_read_categories {items : List Toml} {categories : List Category}
    (read : Toml.asListOf? category? (.list items) = some categories) :
    List.Forall₂ (fun item category => category? item = some category) items categories := by
  rw [Toml.asListOf?] at read
  induction items generalizing categories with
  | nil =>
      cases read
      exact .nil
  | cons first rest induction =>
      rw [List.mapM_cons] at read
      simp only [Option.bind_eq_bind, Option.bind_eq_some_iff, Option.pure_def,
        Option.some.injEq] at read
      obtain ⟨category, firstRead, others, restRead, rfl⟩ := read
      exact .cons firstRead (induction restRead)

theorem read_tier_of_unnamed {setting : Setting}
    (tier : setting = .access ∨ setting = .accessLimit) {members : Toml.Members}
    (unnamed : ¬Toml.NamesTier members) : setting.read? (.table members) = none := by
  have nothing : Toml.asMaturity? (.table members) = none := by
    cases members with
    | nil => rfl
    | cons first rest =>
        cases rest with
        | nil =>
            rcases first with ⟨tag, inside⟩
            rw [Toml.asMaturity?]
            split
            · next isEmpty =>
                rw [Option.eq_none_iff_forall_ne_some]
                intro maturity isTag
                exact unnamed ⟨tag, inside, maturity, rfl, isEmpty, isTag⟩
            · rfl
        | cons second others => rfl
  rcases tier with rfl | rfl
  · exact nothing
  · exact nothing

end Setting

namespace Listeners

def shape : Shape := .record (Toml.plain keys)

theorem reads : Reads shape ofToml? := by
  apply Reads.record
  intro left right agree
  have same : ∀ key ∈ keys, left.lookup key = right.lookup key := fun _ => agree.lookup_eq
  simp only [ofMembers?, Toml.optional?, same "rpc_bind" (by decide), same "udp_bind" (by decide)]

end Listeners

namespace Seat

def shape : Shape := .record (Toml.plain keys)

theorem reads : Reads shape ofToml? := by
  apply Reads.record
  intro left right agree
  have same : ∀ key ∈ keys, left.lookup key = right.lookup key := fun _ => agree.lookup_eq
  simp only [ofMembers?, Toml.required?, Toml.optional?, same "first" (by decide),
    same "last" (by decide), same "passwd" (by decide), same "disabled" (by decide)]

end Seat

namespace Grid

def shape : Shape := .record (Setting.all.map fun setting => (setting.key, setting.shape))

theorem reads : Reads shape ofToml? := by
  apply Reads.record
  intro left right agree
  apply Option.ext
  intro grid
  have same (setting : Setting) : settingOf? left setting = settingOf? right setting :=
    agree.optional?_eq (List.mem_map_of_mem (Setting.mem_all setting)) setting.reads _
  rw [ofMembers?_eq_some_iff, ofMembers?_eq_some_iff]
  simp only [same]

end Grid

namespace Configuration

/-! ## Changes of a document -/

def fields : List (String × Shape) :=
  [("server", Listeners.shape), ("grid", Grid.shape), ("accounts", .listOf Seat.shape)]

theorem ofMembers?_of_agreeAt {left right : Toml.Members} (agree : AgreeAt fields left right) :
    ofMembers? left = ofMembers? right := by
  have listeners := agree.optional?_eq List.mem_cons_self Listeners.reads Listeners.standard
  have grid := agree.optional?_eq (List.mem_cons_of_mem _ List.mem_cons_self) Grid.reads
    Grid.standard
  have seats := agree.optional?_eq (List.mem_cons_of_mem _ (List.mem_cons_of_mem _
    List.mem_cons_self)) Seat.reads.listOf []
  rw [ofMembers?, ofMembers?, listeners, grid, seats]

def Sets (document : Toml.Members) (key : String) (value : Toml) (table : Toml.Members) : Prop :=
  ∀ name, table.lookup name = if name = key then some value else document.lookup name

theorem sets_append {document : Toml.Members} {key : String} (absent : document.lookup key = none)
    (value : Toml) : Sets document key value (document ++ [(key, value)]) := by
  intro name
  rw [List.lookup_append]
  split
  · next same =>
      subst same
      rw [absent, Option.none_or, List.lookup_cons_self]
  · next different =>
      rw [List.lookup_cons, beq_false_of_ne different]
      exact Option.or_none

/-- The part is left out, or there is nothing in it. -/
def Part.Bare (part : Part) (document : Toml.Members) : Prop :=
  ∀ value, document.lookup part.key = some value → value ∈ part.empties

def Part.SameOutside (part : Part) (document table : Toml.Members) : Prop :=
  ∀ name, name ≠ part.key → table.lookup name = document.lookup name

namespace Entry

def LeftOut (entry : Entry) (document : Toml.Members) : Prop :=
  ∃ record, entry.record? document = some record ∧ record.lookup entry.key = none

/-- Another table whose section has the value at the key of the entry, and that otherwise holds
the same. -/
def Gives (entry : Entry) (document : Toml.Members) (value : Toml) (table : Toml.Members) : Prop :=
  entry.part.SameOutside document table ∧
    ∃ record extended, entry.record? document = some record ∧
      entry.record? table = some extended ∧ Sets record entry.key value extended

variable {entry other : Entry} {document table : Toml.Members}

theorem record?_of_bare (bare : entry.part.Bare document) : entry.record? document = some [] := by
  rw [record?, Toml.section?]
  cases found : document.lookup entry.part.key with
  | none => rfl
  | some value =>
      have isEmpty := bare value found
      have forms : value = .table [] ∨ value = .list [] := by
        cases entry with
        | inListeners _ | inGrid _ => simpa [part, Part.empties] using isEmpty
      obtain rfl | rfl := forms
      · rfl
      · exact congrArg some List.zip_nil_right

theorem seats_ne_part (entry : Entry) : Part.seats ≠ entry.part := by
  cases entry with
  | inListeners _ | inGrid _ => exact Part.noConfusion

theorem record?_of_sameOutside {changed : Part} (same : changed.SameOutside document table)
    (different : entry.part ≠ changed) : entry.record? table = entry.record? document :=
  record?_congr (same _ fun sameKey => different (Part.eq_of_key_eq sameKey))

/-- A key that is given in a section sets one entry and leaves all others as they are. -/
theorem of?_of_gives {configuration : Configuration} {given : Toml} {value : entry.Value}
    (gives : entry.Gives document given table) (valid : entry.read? given = some value)
    (entries : ∀ each : Entry, each.of? document = some (configuration.get each)) :
    other.of? table = some (Function.update configuration.get entry value other) := by
  obtain ⟨outside, record, extended, before, after, sets⟩ := gives
  by_cases same : other = entry
  · subst same
    have found : extended.lookup other.key = some given := (sets other.key).trans (if_pos rfl)
    rw [Function.update_self, of?, after, Option.bind_some, Toml.optional?, found]
    exact valid
  · rw [Function.update_of_ne same, ← entries other]
    by_cases samePart : other.part = entry.part
    · have elsewhere := (sets other.key).trans (if_neg (key_ne same samePart))
      rw [of?, of?, record?_eq_of_part samePart, record?_eq_of_part samePart, before, after,
        Option.bind_some, Option.bind_some, Toml.optional?, Toml.optional?, elsewhere]
    · rw [of?, of?, record?_of_sameOutside outside samePart]

end Entry

theorem seatsOf?_of_bare {document : Toml.Members} (bare : Part.seats.Bare document) :
    seatsOf? document = some [] := by
  rw [seatsOf?, Toml.optional?]
  cases found : document.lookup Part.seats.key with
  | none => rfl
  | some value =>
      rw [List.mem_singleton.mp (bare value found)]
      rfl

theorem seatsOf?_of_sameOutside {changed : Part} {document table : Toml.Members}
    (same : changed.SameOutside document table) (different : Part.seats ≠ changed) :
    seatsOf? table = seatsOf? document := by
  have sameSeats := same Part.seats.key fun sameKey => different (Part.eq_of_key_eq sameKey)
  rw [seatsOf?, seatsOf?, Toml.optional?, Toml.optional?, sameSeats]

/-- A part that is left out is the same as one with nothing in it. -/
theorem ofMembers?_of_bare {part : Part} {document table : Toml.Members}
    (bare : part.Bare document) (alsoBare : part.Bare table)
    (same : part.SameOutside document table) : ofMembers? table = ofMembers? document := by
  apply ofMembers?_congr
  · intro entry
    by_cases inside : entry.part = part
    · subst inside
      rw [Entry.of?, Entry.of?, Entry.record?_of_bare bare, Entry.record?_of_bare alsoBare]
    · rw [Entry.of?, Entry.of?, Entry.record?_of_sameOutside same inside]
  · by_cases inside : Part.seats = part
    · subst inside
      rw [seatsOf?_of_bare bare, seatsOf?_of_bare alsoBare]
    · exact seatsOf?_of_sameOutside same inside

theorem ofText?_of_table {text : String} {table : Toml.Members}
    (isTable : Toml.ofText? text = some table) : ofText? text = ofMembers? table := by
  rw [ofText?, isTable, Option.bind_some]

/-! ## Overlays -/

/-- What a document leaves out is standard, and a part that it leaves out is the same as one with
nothing in it. A key that is given sets its own entry and nothing else. What stands at unknown keys
does not matter, except in a table that names a tier: it has the tag as its only key, with nothing
in what stands there, or the document is not loaded. -/
theorem ofText?_overlays {text : String} {document : Toml.Members} {configuration : Configuration}
    (isTable : Toml.ofText? text = some document) (loads : ofText? text = some configuration) :
    (∀ part : Part, part.Bare document → ∀ other table, Toml.ofText? other = some table →
      part.Bare table → part.SameOutside document table → ofText? other = some configuration) ∧
    (∀ entry : Entry, entry.LeftOut document → configuration.get entry = standard.get entry) ∧
    (∀ (entry : Entry) (given : Toml) (value : entry.Value), entry.read? given = some value →
      ∀ other table, Toml.ofText? other = some table → entry.Gives document given table →
        ∃ changed, ofText? other = some changed ∧ changed.get entry = value ∧
          (∀ another, another ≠ entry → changed.get another = configuration.get another) ∧
          changed.seats = configuration.seats ∧
          changed.grid.skyTextures =
            ⟨some (changed.get (.inGrid .cloudTexture)), some (changed.get (.inGrid .sunTexture)),
              some (changed.get (.inGrid .moonTexture))⟩ ∧
          (entry = .inGrid .categories → ∀ items, given = .list items →
            List.Forall₂ (fun item category => Setting.category? item = some category) items
              changed.grid.categories)) ∧
    (∀ other table, Toml.ofText? other = some table → AgreeAt fields document table →
      ofText? other = some configuration) ∧
    (∀ setting, setting = .access ∨ setting = .accessLimit → ∀ other table record members,
      Toml.ofText? other = some table → (Entry.inGrid setting).record? table = some record →
      record.lookup setting.key = some (.table members) → ¬Toml.NamesTier members →
        ofText? other = none) := by
  have read : ofMembers? document = some configuration :=
    (ofText?_of_table isTable).symm.trans loads
  obtain ⟨entries, seats⟩ := ofMembers?_eq_some_iff.mp read
  refine ⟨?_, ?_, ?_, ?_, ?_⟩
  · intro part bare other table isOther alsoBare same
    rw [ofText?_of_table isOther, ofMembers?_of_bare bare alsoBare same, read]
  · intro entry ⟨record, before, absent⟩
    have given := entries entry
    rw [Entry.of?, before, Option.bind_some, Toml.optional?, absent] at given
    exact (Option.some.inj given).symm
  · intro entry given value valid other table isOther gives
    refine ⟨ofEntries (Function.update configuration.get entry value) configuration.seats,
      ?_, ?_, ?_, rfl, rfl, ?_⟩
    · rw [ofText?_of_table isOther, ofMembers?_eq_some_iff]
      refine ⟨?_, ?_⟩
      · intro another
        rw [get_ofEntries]
        exact Entry.of?_of_gives gives valid entries
      · rw [seatsOf?_of_sameOutside gives.1 entry.seats_ne_part, seats]
        rfl
    · rw [get_ofEntries, Function.update_self]
    · intro another different
      rw [get_ofEntries, Function.update_of_ne different]
    · rintro rfl items rfl
      have isValue : (ofEntries (Function.update configuration.get (.inGrid .categories) value)
          configuration.seats).grid.categories = value := by
        have same := get_ofEntries (Function.update configuration.get (.inGrid .categories) value)
          configuration.seats (.inGrid .categories)
        rw [Function.update_self] at same
        exact same
      rw [isValue]
      exact Setting.forall₂_of_read_categories valid
  · intro other table isOther agree
    rw [ofText?_of_table isOther, ← ofMembers?_of_agreeAt agree, read]
  · intro setting tier other table record members isOther isRecord found unnamed
    have unreadable : (Entry.inGrid setting).of? table = none := by
      rw [Entry.of?, isRecord, Option.bind_some, Toml.optional?]
      have atKey : record.lookup (Entry.inGrid setting).key = some (.table members) := found
      rw [atKey]
      exact Setting.read_tier_of_unnamed tier unnamed
    rw [ofText?_of_table isOther, Option.eq_none_iff_forall_ne_some]
    intro changed loaded
    have readable := (ofMembers?_eq_some_iff.mp loaded).1 (.inGrid setting)
    rw [unreadable] at readable
    contradiction

def ruth : Toml :=
  .table [("first", .text "R"), ("last", .text "L"), ("passwd", .text "x")]

def greeting : Toml.Members :=
  [("grid", .table [("welcome_message", .text "Hi")]), ("accounts", .list [ruth])]

def turned : Toml := .list [
  .table [("id", .integer 2), ("name", .text "B")], .table [("id", .integer 1), ("name", .text "A")]]

def notedRuth : Toml :=
  .table [("last", .text "L"), ("first", .text "R"), ("passwd", .text "x"),
    ("note", .real)]

def notedGreeting : Toml.Members :=
  [("note", .integer 1), ("accounts", .list [notedRuth]),
    ("grid", .table [("note", .list []), ("welcome_message", .text "Hi")])]

theorem agreeAt_notedGreeting : AgreeAt fields greeting notedGreeting := by
  have grid : Toml.Agree Grid.shape (.table [("welcome_message", .text "Hi")])
      (.table [("note", .list []), ("welcome_message", .text "Hi")]) :=
    (AgreeAt.of_lookup (by decide +kernel)).table
  have seat : Toml.Agree Seat.shape ruth notedRuth :=
    (AgreeAt.of_lookup (by decide +kernel)).table
  have seats : Toml.Agree (.listOf Seat.shape) (.list [ruth]) (.list [notedRuth]) :=
    @Toml.Agree.items _ [(ruth, notedRuth)] (List.forall_mem_singleton.mpr seat)
  constructor
  · intro field member
    simp only [fields, List.mem_cons, List.not_mem_nil, or_false] at member
    obtain rfl | rfl | rfl := member <;> rfl
  · intro field member left right inLeft inRight
    simp only [fields, List.mem_cons, List.not_mem_nil, or_false] at member
    obtain rfl | rfl | rfl := member
    · contradiction
    · cases inLeft
      cases inRight
      exact grid
    · cases inLeft
      cases inRight
      exact seats

theorem ofText?_overlays_greeting :
    let seat := "[[accounts]]\nfirst='R'\nlast='L'\npasswd='x'\n"
    let plain := "[grid]\nwelcome_message='Hi'\n" ++ seat
    let further := plain ++ "[[grid.classified_categories]]\nid=2\nname='B'\n" ++
      "[[grid.classified_categories]]\nid=1\nname='A'\n"
    let noisy := "note=1\n[[accounts]]\nlast='L'\nfirst='R'\npasswd='x'\nnote=1.5\n" ++
      "[grid]\nnote=[]\nwelcome_message='Hi'\n"
    let tiered := plain ++ "[grid.agent_access.M]\n"
    Toml.ofText? plain = some greeting ∧ AgreeAt fields greeting notedGreeting ∧
    ∃ configuration, ofText? plain = some configuration ∧
      ofText? (plain ++ "[server]\n") = some configuration ∧
      configuration.get (.inGrid .simPort) = 9001 ∧
      (∃ changed, ofText? further = some changed ∧
        changed.get (.inGrid .categories) = [⟨2, "B"⟩, ⟨1, "A"⟩] ∧
        changed.get (.inGrid .welcome) = configuration.get (.inGrid .welcome)) ∧
      ofText? noisy = some configuration ∧
      (ofText? tiered).isSome = true ∧ ofText? (tiered ++ "note=1\n") = none := by
  intro seat plain further noisy tiered
  have isTable : Toml.ofText? plain = some greeting := by decide +kernel
  obtain ⟨configuration, loads⟩ : ∃ configuration, ofText? plain = some configuration :=
    Option.isSome_iff_exists.mp (by decide +kernel)
  obtain ⟨bare, leftOut, gives, unknown, unnamed⟩ := ofText?_overlays isTable loads
  refine ⟨isTable, agreeAt_notedGreeting, configuration, loads, ?_, ?_, ?_, ?_,
    by decide +kernel, ?_⟩
  · apply bare .listeners nofun (plain ++ "[server]\n") (greeting ++ [("server", .table [])])
      (by decide +kernel)
    · intro value found
      cases found
      exact List.mem_cons_self
    · exact fun name elsewhere => (sets_append rfl _ name).trans (if_neg elsewhere)
  · exact leftOut (.inGrid .simPort) ⟨[("welcome_message", .text "Hi")], rfl, rfl⟩
  · have given : (Entry.inGrid .categories).Gives greeting turned
        [("grid", .table [("welcome_message", .text "Hi"), ("classified_categories", turned)]),
          ("accounts", .list [ruth])] := by
      constructor
      · intro name elsewhere
        have different : (name == "grid") = false := beq_false_of_ne elsewhere
        simp only [greeting, List.lookup_cons, different]
      · exact ⟨[("welcome_message", .text "Hi")], _, rfl, rfl, sets_append rfl turned⟩
    obtain ⟨changed, changedLoads, isValue, others, _⟩ :=
      gives (.inGrid .categories) turned [⟨2, "B"⟩, ⟨1, "A"⟩] rfl further _ (by decide +kernel)
        given
    exact ⟨changed, changedLoads, isValue, others (.inGrid .welcome) (by decide)⟩
  · exact unknown noisy notedGreeting (by decide +kernel) agreeAt_notedGreeting
  · apply unnamed .access (.inl rfl) (tiered ++ "note=1\n")
      [("grid", .table [("welcome_message", .text "Hi"),
        ("agent_access", .table [("M", .table [("note", .integer 1)])])]),
        ("accounts", .list [ruth])]
      _ [("M", .table [("note", .integer 1)])] (by decide +kernel) rfl rfl
    intro ⟨_, _, _, same, isEmpty, _⟩
    cases same
    contradiction

/-- A further key in a table that names a tier is not passed over. -/
theorem ofText?_notedTier :
    let plain := "[grid.agent_access]\nM=[]\n"
    let noted := plain ++ "note=1\n"
    Toml.ofText? plain = some [("grid", .table [("agent_access", .table [("M", .list [])])])] ∧
      Toml.ofText? noted =
        some [("grid", .table [("agent_access",
          .table [("M", .list []), ("note", .integer 1)])])] ∧
      (∃ configuration, ofText? plain = some configuration) ∧ ofText? noted = none := by
  intro plain noted
  have loads : (ofText? plain).isSome := by decide +kernel
  exact ⟨by decide +kernel, by decide +kernel, Option.isSome_iff_exists.mp loads,
    by decide +kernel⟩

end Configuration

end ViewerLogin
