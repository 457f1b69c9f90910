import ViewerLogin.Proofs.Wire.Codec

/-!
# Stable codecs

A codec may read one value in several spellings, and it may write values that it reads as
others. It is stable when what it has once read comes back unchanged from what it writes for
it. The values of a stable codec need no further thought after they were read once.
-/

namespace ViewerLogin.Wire

def Codec.Stable {α : Type} (codec : Codec α) : Prop :=
  ∀ key slot value, codec.read key slot = .ok value → codec.Reads value value

def Record.Stable {α : Type} (record : Record α) : Prop :=
  ∀ members value, record.read members = .ok value → record.Reads value value

namespace Codec

variable {α : Type}

theorem stable_of_reads {codec : Codec α} (reads : ∀ value, codec.Reads value value) :
    codec.Stable :=
  fun _ _ value _ => reads value

/-! ## Texts -/

theorem normalText_of_read {key : String} {slot : Option Json} {value : Option String}
    (read : text.read key slot = .ok value) : normalText value = value := by
  simp only [text] at read
  split at read
  · cases read
    rfl
  · next given isPresent =>
      cases read
      apply normalText_of_ne
      rintro rfl
      have set := (Option.filter_eq_some_iff.mp isPresent).2
      simp [isPlaceholder] at set
  · contradiction

theorem stable_text : text.Stable := by
  intro key slot value read
  have reads := reads_text value
  rwa [normalText_of_read read] at reads

/-! ## Values that must be there -/

theorem required_eq_ok_iff {codec : Codec (Option α)} {key : String} {slot : Option Json}
    {value : α} : codec.required.read key slot = .ok value ↔
      codec.read key slot = .ok (some value) := by
  simp only [required]
  split
  · next failed => simp [failed]
  · next absent => simp [absent]
  · next found => simp [found]

end Codec

/-! ## Records -/

namespace Record.Stable

variable {α : Type} {record : Record α}

theorem reads_of_readItems (stable : record.Stable) {key : String} {items : List Json}
    {values : List α} (read : record.readItems key items = .ok values) :
    ∀ value ∈ values, record.Reads value value := by
  induction items generalizing values with
  | nil =>
      cases read
      exact nofun
  | cons first rest induction =>
      cases first with
      | map members =>
          rw [readItems] at read
          split at read
          · contradiction
          · next value firstRead =>
              split at read
              · contradiction
              · next others restRead =>
                  cases read
                  exact List.forall_mem_cons.mpr
                    ⟨stable members value firstRead, induction restRead⟩
      | _ => contradiction

theorem reads_of_readList (stable : record.Stable) {key : String} {slot : Option Json}
    {values : List α} (read : record.readList key slot = .ok values) :
    ∀ value ∈ values, record.Reads value value := by
  unfold readList at read
  split at read
  · cases read
    exact nofun
  · exact stable.reads_of_readItems read
  · contradiction

theorem reads_of_readFirst (stable : record.Stable) {key : String} {slot : Option Json}
    {value : Option α} (read : record.readFirst key slot = .ok value) :
    ∀ each ∈ value, record.Reads each each := by
  intro each member
  unfold readFirst at read
  split at read
  · next members _ =>
      rcases map_eq_ok_iff.mp read with ⟨found, foundRead, rfl⟩
      cases member
      exact stable members each foundRead
  · rcases map_eq_ok_iff.mp read with ⟨values, valuesRead, rfl⟩
    exact stable.reads_of_readList valuesRead each (List.mem_of_mem_head? member)

end Record.Stable

namespace Codec

variable {α : Type} {record : Record α}

theorem stable_listOf (stable : record.Stable) : (listOf record).Stable := by
  intro key slot values read
  have reads := reads_listOf (stable.reads_of_readList read)
  rwa [List.map_id'] at reads

theorem stable_reference (stable : record.Stable) : (reference record).Stable := by
  intro key slot value read
  have reads := reads_reference (stable.reads_of_readFirst read)
  rwa [Option.map_id'] at reads

theorem stable_single (stable : record.Stable) {default : α}
    (defaultReads : record.Reads default default) : (single record default).Stable := by
  intro key slot value read
  rcases map_eq_ok_iff.mp read with ⟨found, foundRead, rfl⟩
  cases found with
  | none => exact reads_single default defaultReads
  | some each => exact reads_single default (stable.reads_of_readFirst foundRead each rfl)

end Codec

end ViewerLogin.Wire
