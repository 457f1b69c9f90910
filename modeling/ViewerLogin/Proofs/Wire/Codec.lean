import ViewerLogin.Proofs.IpAddress
import ViewerLogin.Proofs.Json.Members
import ViewerLogin.Wire.Codec

/-!
# What a codec reads of what it wrote

A value that was written reads back as itself, with one exception: a text that is spelled like
the placeholder reads as unset. The laws of composite codecs follow from those of their parts.
-/

namespace ViewerLogin.Wire

def normalText (text : Option String) : Option String := text.filter (· ≠ placeholder)

theorem normalText_of_ne {text : String} (different : text ≠ placeholder) :
    normalText (some text) = some text := by
  simp [normalText, different]

theorem normalText_placeholder : normalText (some placeholder) = none := by
  simp [normalText]

theorem normalText_eq_self {text : Option String} (clear : ∀ each ∈ text, each ≠ placeholder) :
    normalText text = text := by
  cases text with
  | none => rfl
  | some text => exact normalText_of_ne (clear text rfl)

/-! ## Readings in steps -/

theorem bind_eq_ok_iff {ε α β : Type} {first : Except ε α} {next : α → Except ε β} {result : β} :
    first >>= next = .ok result ↔ ∃ value, first = .ok value ∧ next value = .ok result := by
  cases first with
  | error error => exact ⟨nofun, fun ⟨_, impossible, _⟩ => nomatch impossible⟩
  | ok value => exact ⟨fun same => ⟨value, rfl, same⟩, fun ⟨_, rfl, same⟩ => same⟩

theorem map_eq_ok_iff {ε α β : Type} {first : Except ε α} {change : α → β} {result : β} :
    first.map change = .ok result ↔ ∃ value, first = .ok value ∧ change value = result := by
  cases first with
  | error error => exact ⟨nofun, fun ⟨_, impossible, _⟩ => nomatch impossible⟩
  | ok value =>
      constructor
      · intro same
        exact ⟨value, rfl, Except.ok.inj same⟩
      · rintro ⟨_, ⟨⟩, same⟩
        exact congrArg Except.ok same

theorem map_eq_error_iff {ε α β : Type} {first : Except ε α} {change : α → β} {error : ε} :
    first.map change = .error error ↔ first = .error error := by
  cases first with
  | error other =>
      constructor
      · intro same
        exact congrArg Except.error (Except.error.inj same)
      · intro same
        exact congrArg Except.error (Except.error.inj same)
  | ok value => exact ⟨nofun, nofun⟩

theorem map_map {ε α β γ : Type} (change : α → β) (further : β → γ) (first : Except ε α) :
    (first.map change).map further = first.map fun value => further (change value) := by
  cases first <;> rfl

/-! ## What counts as set -/

theorem present_text_of_ne {text : String} (different : text ≠ placeholder) :
    present (some (.text text)) = some (.text text) := by
  simp [present, isPlaceholder, different]

theorem present_placeholder : present (some (.text placeholder)) = none := by
  simp [present, isPlaceholder]

theorem present_unset : present (some unset) = none := present_placeholder

namespace Codec

variable {α : Type}

def Reads (codec : Codec α) (value result : α) : Prop :=
  ∀ key, codec.read key (some (codec.write value)) = .ok result

/-! ## Texts -/

theorem reads_text (value : Option String) : text.Reads value (normalText value) := by
  intro key
  cases value with
  | none => simp [text, present_unset, normalText]
  | some written =>
      by_cases reserved : written = placeholder
      · subst reserved
        rw [normalText_placeholder]
        simp [text, present_placeholder]
      · rw [normalText_of_ne reserved]
        simp [text, present_text_of_ne reserved]

/-- Spellings that can be parsed, which the placeholder cannot, read back as they are. -/
theorem reads_spelled {spell : α → String} {parse? : String → Option α}
    (inverse : ∀ value, parse? (spell value) = some value)
    (reserved : parse? placeholder = none) (value : Option α) :
    (spelled spell parse?).Reads value value := by
  intro key
  have reads := reads_text (value.map spell) key
  cases value with
  | none =>
      simp only [spelled, Option.map_none] at reads ⊢
      rw [reads]
      rfl
  | some written =>
      have different : spell written ≠ placeholder := fun equal => by
        have parsed := inverse written
        rw [equal, reserved] at parsed
        contradiction
      simp only [spelled, Option.map_some] at reads ⊢
      rw [reads, normalText_of_ne different]
      simp only [inverse]

theorem reads_uuid (value : Option Uuid) : uuid.Reads value value :=
  reads_spelled Uuid.parse?_text (by decide +kernel) value

theorem reads_address (value : Option IpAddress) : address.Reads value value :=
  reads_spelled IpAddress.parse?_text (by decide +kernel) value

/-! ## Truth values -/

theorem reads_flag (value : Option Bool) : flag.Reads value value :=
  reads_spelled (fun value => by cases value <;> rfl) (by decide) value

theorem reads_truth (value : Option Bool) : truth.Reads value value := by
  intro key
  match value with
  | none => rfl
  | some true => rfl
  | some false => rfl

/-! ## Integers -/

theorem reads_word [Word α] (value : Option α) : word.Reads value value := by
  intro key
  cases value with
  | none => rfl
  | some written =>
      have isPresent : present (some (.ofInt (Word.toInt written))) =
        some (.ofInt (Word.toInt written)) := rfl
      simp only [word, isPresent]
      simp only [integer?, Json.ofInt, Word.ofInt?_toInt]

/-! ## Values that must be there -/

theorem reads_required {codec : Codec (Option α)} {value result : α}
    (reads : codec.Reads (some value) (some result)) : codec.required.Reads value result := by
  intro key
  simp only [required, reads key]

theorem reads_withDefault {codec : Codec (Option α)} {value result : α} (default : α)
    (reads : codec.Reads (some value) (some result)) :
    (codec.withDefault default).Reads value result := by
  intro key
  simp only [withDefault, reads key, Option.getD_some]

/-! ## Members of maps -/

theorem readAt_ofList_of_nodup {codec : Codec α} {value result : α} {pairs : List (String × Json)}
    {key : String} (distinct : (pairs.map Prod.fst).Nodup) (reads : codec.Reads value result)
    (member : (key, codec.write value) ∈ pairs) : codec.readAt (.ofList pairs) key = .ok result := by
  rw [readAt, Json.Members.get?_ofList_of_nodup distinct member]
  exact reads key

end Codec

/-! ## Records -/

namespace Record

variable {α : Type}

def Reads (record : Record α) (value result : α) : Prop :=
  record.read (.ofList (record.write value)) = .ok result

theorem readItems_map_toJson {record : Record α} {normal : α → α} {values : List α}
    (key : String) (reads : ∀ value ∈ values, record.Reads value (normal value)) :
    record.readItems key (values.map record.toJson) = .ok (values.map normal) := by
  induction values with
  | nil => rfl
  | cons first rest induction =>
      have firstReads := reads first List.mem_cons_self
      have restReads := induction fun value member => reads value (List.mem_cons_of_mem _ member)
      rw [List.map_cons, List.map_cons, toJson, Json.object, readItems, firstReads]
      simp only [restReads]

theorem readItems_eq_error {record : Record α} {normal : α → α} {error : Error} (key : String)
    {values : List α} (failing : α → Prop)
    (reads : ∀ value, ¬failing value → record.Reads value (normal value))
    (fails : ∀ value, failing value → record.read (.ofList (record.write value)) = .error error)
    (some : ∃ value ∈ values, failing value) :
    record.readItems key (values.map record.toJson) = .error error := by
  induction values with
  | nil =>
      rcases some with ⟨value, member, _⟩
      exact absurd member List.not_mem_nil
  | cons first rest induction =>
      rw [List.map_cons, toJson, Json.object, readItems]
      by_cases firstFails : failing first
      · rw [fails first firstFails]
      · rw [reads first firstFails]
        rcases some with ⟨value, member, valueFails⟩
        have inRest : value ∈ rest := by
          rcases List.mem_cons.mp member with equal | inRest
          · exact absurd (equal ▸ valueFails) firstFails
          · exact inRest
        rw [induction ⟨value, inRest, valueFails⟩]

end Record

namespace Codec

variable {α : Type}

theorem reads_listOf {record : Record α} {normal : α → α} {values : List α}
    (reads : ∀ value ∈ values, record.Reads value (normal value)) :
    (listOf record).Reads values (values.map normal) :=
  fun key => Record.readItems_map_toJson key reads

theorem readFirst_singleton {record : Record α} {value result : α} (key : String)
    (reads : record.Reads value result) :
    record.readFirst key (some (.list [record.toJson value])) = .ok (some result) := by
  have items : record.readItems key [record.toJson value] = .ok [result] := by
    rw [Record.toJson, Json.object, Record.readItems, reads]
    rfl
  have isPresent : present (some (.list [record.toJson value])) =
    some (.list [record.toJson value]) := rfl
  simp only [Record.readFirst, Record.readList, isPresent, items]
  rfl

theorem reads_reference {record : Record α} {normal : α → α} {value : Option α}
    (reads : ∀ each ∈ value, record.Reads each (normal each)) :
    (reference record).Reads value (value.map normal) := by
  intro key
  cases value with
  | none => rfl
  | some each => exact readFirst_singleton key (reads each rfl)

theorem reads_single {record : Record α} {value result : α} (default : α)
    (reads : record.Reads value result) : (single record default).Reads value result := by
  intro key
  simp only [single, readFirst_singleton key reads]
  rfl

theorem reads_items (value : List Json) : items.Reads value value := fun _ => rfl

end Codec

end ViewerLogin.Wire
