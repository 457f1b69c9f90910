import Mathlib.Data.List.Nodup
import ViewerLogin.Configuration.Basic
import ViewerLogin.Proofs.Toml.Agreement

/-!
# Entries of a configuration

The two sections of a document have an entry for each of their keys. An entry is what the document
gives at its key, or else standard, and no entry has a say in another.
-/

namespace ViewerLogin

/-! ## Sections -/

namespace Toml

def section? (document : Members) (key : String) (keys : List String) : Option Members :=
  match document.lookup key with
  | none => some []
  | some value => value.asRecord? keys

/-- A section that is left out is read like one without members. -/
theorem optional?_section {Value : Type} {standard : Value} {keys : List String}
    {ofMembers? : Members → Option Value} (empty : ofMembers? [] = some standard)
    (document : Members) (key : String) :
    optional? document key standard (fun value => (value.asRecord? keys).bind ofMembers?) =
      (section? document key keys).bind ofMembers? := by
  rw [optional?, section?]
  cases document.lookup key with
  | none => exact empty.symm
  | some value => rfl

end Toml

/-! ## Listeners -/

inductive Listener where
  | calls
  | datagrams
  deriving DecidableEq, Repr

namespace Listener

def key : Listener → String
  | .calls => "rpc_bind"
  | .datagrams => "udp_bind"

end Listener

namespace Listeners

def get (listeners : Listeners) : Listener → String
  | .calls => listeners.calls
  | .datagrams => listeners.datagrams

theorem ofMembers?_eq_some_iff {members : Toml.Members} {listeners : Listeners} :
    ofMembers? members = some listeners ↔ ∀ listener : Listener,
      Toml.optional? members listener.key (standard.get listener) Toml.asText? =
        some (listeners.get listener) := by
  constructor
  · intro read
    simp only [ofMembers?, Option.bind_eq_bind, Option.bind_eq_some_iff, Option.pure_def,
      Option.some.injEq] at read
    obtain ⟨calls, callsRead, datagrams, datagramsRead, rfl⟩ := read
    intro listener
    cases listener with
    | calls => exact callsRead
    | datagrams => exact datagramsRead
  · intro reads
    have calls : Toml.optional? members "rpc_bind" standard.calls Toml.asText? =
        some listeners.calls := reads .calls
    have datagrams : Toml.optional? members "udp_bind" standard.datagrams Toml.asText? =
        some listeners.datagrams := reads .datagrams
    rw [ofMembers?, calls, datagrams]
    rfl

end Listeners

/-! ## Settings of a grid -/

theorem Setting.eq_of_key_eq {left right : Setting} (same : left.key = right.key) :
    left = right :=
  List.inj_on_of_nodup_map Setting.keys_nodup (mem_all left) (mem_all right) same

namespace Grid

theorem ofMembers?_eq_some_iff {members : Toml.Members} {grid : Grid} :
    ofMembers? members = some grid ↔
      ∀ setting, settingOf? members setting = some (grid.get setting) := by
  unfold ofMembers?
  split
  · next readable =>
      constructor
      · intro same setting
        rw [← Option.some.inj same, get_ofSettings, Option.some_get]
      · intro reads
        have values : (fun setting => (settingOf? members setting).get
            (readable setting (Setting.mem_all setting))) = grid.get := by
          funext setting
          exact Option.get_of_eq_some _ (reads setting)
        rw [values, ofSettings_get]
  · next unreadable =>
      constructor
      · exact nofun
      · intro reads
        refine absurd ?_ unreadable
        intro setting _
        rw [reads setting]
        rfl

end Grid

namespace Configuration

/-! ## Parts of a document -/

inductive Part where
  | listeners
  | grid
  | seats
  deriving DecidableEq, Repr

namespace Part

def key : Part → String
  | .listeners => "server"
  | .grid => "grid"
  | .seats => "accounts"

def empties : Part → List Toml
  | .listeners | .grid => [.table [], .list []]
  | .seats => [.list []]

theorem eq_of_key_eq {left right : Part} (same : left.key = right.key) : left = right := by
  revert same
  cases left <;> cases right <;> decide

end Part

/-! ## Entries -/

inductive Entry where
  | inListeners (listener : Listener)
  | inGrid (setting : Setting)
  deriving DecidableEq, Repr

@[reducible] def Entry.Value : Entry → Type
  | .inListeners _ => String
  | .inGrid setting => setting.Value

def get (configuration : Configuration) : (entry : Entry) → entry.Value
  | .inListeners listener => configuration.listeners.get listener
  | .inGrid setting => configuration.grid.get setting

def ofEntries (value : (entry : Entry) → entry.Value) (seats : List Seat) : Configuration where
  listeners := ⟨value (.inListeners .calls), value (.inListeners .datagrams)⟩
  grid := .ofSettings fun setting => value (.inGrid setting)
  seats := seats

theorem get_ofEntries (value : (entry : Entry) → entry.Value) (seats : List Seat) (entry : Entry) :
    (ofEntries value seats).get entry = value entry := by
  cases entry with
  | inListeners listener => cases listener <;> rfl
  | inGrid setting => exact Grid.get_ofSettings _ setting

namespace Entry

def part : Entry → Part
  | .inListeners _ => .listeners
  | .inGrid _ => .grid

def key : Entry → String
  | .inListeners listener => listener.key
  | .inGrid setting => setting.key

def keys : Entry → List String
  | .inListeners _ => Listeners.keys
  | .inGrid _ => Setting.all.map Setting.key

def read? : (entry : Entry) → Toml → Option entry.Value
  | .inListeners _ => Toml.asText?
  | .inGrid setting => setting.read?

def record? (entry : Entry) (document : Toml.Members) : Option Toml.Members :=
  Toml.section? document entry.part.key entry.keys

def of? (entry : Entry) (document : Toml.Members) : Option entry.Value :=
  (entry.record? document).bind fun record =>
    Toml.optional? record entry.key (standard.get entry) entry.read?

variable {entry other : Entry} {document table : Toml.Members}

theorem key_ne (different : other ≠ entry) (samePart : other.part = entry.part) :
    other.key ≠ entry.key := by
  intro same
  apply different
  cases other with
  | inListeners other =>
      cases entry with
      | inListeners entry =>
          revert same
          cases other <;> cases entry <;> decide
      | inGrid _ => contradiction
  | inGrid other =>
      cases entry with
      | inListeners _ => contradiction
      | inGrid entry => exact congrArg Entry.inGrid (Setting.eq_of_key_eq same)

theorem record?_eq_of_part (samePart : other.part = entry.part) (document : Toml.Members) :
    other.record? document = entry.record? document := by
  cases other with
  | inListeners _ =>
      cases entry with
      | inListeners _ => rfl
      | inGrid _ => contradiction
  | inGrid _ =>
      cases entry with
      | inListeners _ => contradiction
      | inGrid _ => rfl

theorem record?_congr (same : table.lookup entry.part.key = document.lookup entry.part.key) :
    entry.record? table = entry.record? document := by
  rw [record?, record?, Toml.section?, Toml.section?, same]

end Entry

/-! ## Documents -/

def seatsOf? (document : Toml.Members) : Option (List Seat) :=
  Toml.optional? document Part.seats.key [] (Toml.asListOf? Seat.ofToml?)

theorem optional?_listeners (document : Toml.Members) :
    Toml.optional? document "server" .standard Listeners.ofToml? =
      (Toml.section? document "server" Listeners.keys).bind Listeners.ofMembers? :=
  @Toml.optional?_section _ Listeners.standard _ _ rfl document "server"

theorem optional?_grid (document : Toml.Members) :
    Toml.optional? document "grid" .standard Grid.ofToml? =
      (Toml.section? document "grid" (Setting.all.map Setting.key)).bind Grid.ofMembers? :=
  Toml.optional?_section Grid.ofMembers?_nil document "grid"

/-- What is read of a section as a whole is what is read of its entries one by one. -/
theorem bind_eq_some_iff_forall {Index Record Whole : Type} [Nonempty Index]
    {Value : Index → Type} {record? : Option Record} {read? : Record → Option Whole}
    {readAt? : (index : Index) → Record → Option (Value index)} {whole : Whole}
    {value : (index : Index) → Value index}
    (separately : ∀ record, read? record = some whole ↔
      ∀ index, readAt? index record = some (value index)) :
    record?.bind read? = some whole ↔
      ∀ index, record?.bind (readAt? index) = some (value index) := by
  cases record? with
  | none => exact ⟨nofun, fun reads => nomatch reads (Classical.arbitrary Index)⟩
  | some record => exact separately record

theorem optional?_listeners_eq_some_iff {document : Toml.Members} {listeners : Listeners} :
    Toml.optional? document "server" .standard Listeners.ofToml? = some listeners ↔
      ∀ listener, (Entry.inListeners listener).of? document = some (listeners.get listener) := by
  have : Nonempty Listener := ⟨.calls⟩
  rw [optional?_listeners]
  exact bind_eq_some_iff_forall fun _ => Listeners.ofMembers?_eq_some_iff

theorem optional?_grid_eq_some_iff {document : Toml.Members} {grid : Grid} :
    Toml.optional? document "grid" .standard Grid.ofToml? = some grid ↔
      ∀ setting, (Entry.inGrid setting).of? document = some (grid.get setting) := by
  have : Nonempty Setting := ⟨.simAddress⟩
  rw [optional?_grid]
  exact bind_eq_some_iff_forall fun _ => Grid.ofMembers?_eq_some_iff

/-- A configuration is laid over the standard one entry by entry. -/
theorem ofMembers?_eq_some_iff {document : Toml.Members} {configuration : Configuration} :
    ofMembers? document = some configuration ↔
      (∀ entry : Entry, entry.of? document = some (configuration.get entry)) ∧
        seatsOf? document = some configuration.seats := by
  constructor
  · intro read
    simp only [ofMembers?, Option.bind_eq_bind, Option.bind_eq_some_iff, Option.pure_def,
      Option.some.injEq] at read
    obtain ⟨listeners, listenersRead, grid, gridRead, seats, seatsRead, rfl⟩ := read
    refine ⟨?_, seatsRead⟩
    intro entry
    cases entry with
    | inListeners listener => exact optional?_listeners_eq_some_iff.mp listenersRead listener
    | inGrid setting => exact optional?_grid_eq_some_iff.mp gridRead setting
  · intro ⟨entries, seats⟩
    have listeners := optional?_listeners_eq_some_iff.mpr fun listener => entries (.inListeners listener)
    have grid := optional?_grid_eq_some_iff.mpr fun setting => entries (.inGrid setting)
    have seatsRead : Toml.optional? document "accounts" [] (Toml.asListOf? Seat.ofToml?) =
        some configuration.seats := seats
    rw [ofMembers?, listeners, grid, seatsRead]
    rfl

theorem ofMembers?_congr {document table : Toml.Members}
    (entries : ∀ entry : Entry, entry.of? table = entry.of? document)
    (seats : seatsOf? table = seatsOf? document) : ofMembers? table = ofMembers? document := by
  apply Option.ext
  intro configuration
  rw [ofMembers?_eq_some_iff, ofMembers?_eq_some_iff, seats]
  simp only [entries]

end Configuration

end ViewerLogin
