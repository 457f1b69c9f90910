import ViewerLogin.Proofs.Decimal.Spelling
import ViewerLogin.Proofs.Wire.Entry
import ViewerLogin.Proofs.Wire.Member

/-!
# Integers on the wire

An integer comes as a number or as a text that spells it. A field takes the integers of its type:
each of them is read as itself, any other integer is named in the error, and what is no integer
at all has the wrong shape.
-/

namespace ViewerLogin.Wire

/-! ## Values that spell integers -/

/-- The value holds this integer. One that is given as text may have 128 bits. -/
inductive Spells : Json → Int → Prop where
  | number (number : Int) : Spells (.number (.integer number)) number
  | text {text : String} {number : Int} (spelled : Decimal.Spells text.toList number)
      (least : -Codec.integerTextLimit ≤ number) (greatest : number < Codec.integerTextLimit) :
      Spells (.text text) number

theorem integer?_eq_some_iff {value : Json} {number : Int} :
    Codec.integer? value = some number ↔ Spells value number := by
  constructor
  · intro held
    unfold Codec.integer? at held
    split at held
    · cases held
      exact .number number
    · rcases Option.filter_eq_some_iff.mp held with ⟨read, range⟩
      have bounds := of_decide_eq_true range
      exact .text (Decimal.readInteger?_trimCharacters_eq_some_iff.mp read) bounds.1 bounds.2
    · contradiction
  · intro spells
    cases spells with
    | number => rfl
    | text spelled least greatest =>
        refine Option.filter_eq_some_iff.mpr ⟨?_, decide_eq_true ⟨least, greatest⟩⟩
        exact Decimal.readInteger?_trimCharacters_eq_some_iff.mpr spelled

def isScalar : Json → Bool
  | .number _ => true
  | .text text => text ≠ placeholder
  | _ => false

theorem isScalar_of_spells {value : Json} {number : Int} (spells : Spells value number) :
    isScalar value = true := by
  have held := integer?_eq_some_iff.mpr spells
  cases spells with
  | number => rfl
  | text =>
      refine decide_eq_true ?_
      rintro rfl
      have nothing : Codec.integer? (.text placeholder) = none := by decide +kernel
      rw [nothing] at held
      contradiction

theorem present_of_isScalar {value : Json} (scalar : isScalar value = true) :
    present (some value) = some value := by
  cases value with
  | number number => rfl
  | text text => exact present_text_of_ne (of_decide_eq_true scalar)
  | _ => exact absurd scalar Bool.false_ne_true

/-! ## Reading integers -/

/-- A reading that takes the integers from `low` to below `limit` at a key. `Shows` says what a
result must be like when an integer has been read. -/
structure TakesIntegers {α : Type} (read : Json → Except Error α) (key : String)
    (low limit : Int) (Shows : Int → α → Prop) : Prop where
  fits : ∀ {value : Json} {number : Int}, Spells value number → low ≤ number → number < limit →
    ∃ result, read value = .ok result ∧ Shows number result
  exceeds : ∀ {value : Json} {number : Int}, Spells value number →
    ¬(low ≤ number ∧ number < limit) →
    read value = .error (.invalid key (String.ofList (Decimal.integer number)))
  refuses : ∀ {value : Json}, isScalar value = true → (∀ number, ¬Spells value number) →
    read value = .error (.wrongShape key .integer)

namespace TakesIntegers

variable {α β : Type} {read : Json → Except Error α} {key : String} {low limit : Int}
  {Shows : Int → α → Prop}

theorem map (takes : TakesIntegers read key low limit Shows) {ShowsAfter : Int → β → Prop}
    (change : α → β)
    (keeps : ∀ number result, Shows number result → ShowsAfter number (change result)) :
    TakesIntegers (fun value => (read value).map change) key low limit ShowsAfter where
  fits spells lower upper := by
    rcases takes.fits spells lower upper with ⟨result, isRead, shows⟩
    refine ⟨change result, ?_, keeps _ _ shows⟩
    rw [isRead]
    rfl
  exceeds spells outside := by
    rw [takes.exceeds spells outside]
    rfl
  refuses scalar noInteger := by
    rw [takes.refuses scalar noInteger]
    rfl

theorem mono (takes : TakesIntegers read key low limit Shows) {ShowsToo : Int → α → Prop}
    (weakens : ∀ number result, Shows number result → ShowsToo number result) :
    TakesIntegers read key low limit ShowsToo where
  fits spells lower upper := by
    rcases takes.fits spells lower upper with ⟨result, isRead, shows⟩
    exact ⟨result, isRead, weakens _ _ shows⟩
  exceeds := takes.exceeds
  refuses := takes.refuses

theorem of_eq {other : Json → Except Error α} (takes : TakesIntegers read key low limit Shows)
    (same : ∀ value, other value = read value) :
    TakesIntegers other key low limit Shows := by
  rwa [funext same]

end TakesIntegers

namespace Codec

variable {α : Type}

theorem takesIntegers_word [Word α] (key : String) :
    TakesIntegers (fun value => (word : Codec (Option α)).read key (some value)) key
      (Word.low α) (Word.limit α) fun number result => result.map Word.toInt = some number where
  fits {value number} spells lower upper := by
    have isPresent := present_of_isScalar (isScalar_of_spells spells)
    have fit : Word.ofInt? number = some (Word.ofInt number : α) := if_pos ⟨lower, upper⟩
    refine ⟨some (Word.ofInt number), ?_, ?_⟩
    · simp only [word, isPresent, integer?_eq_some_iff.mpr spells, fit]
    · exact congrArg some (Word.toInt_ofInt number lower upper)
  exceeds {value number} spells outside := by
    have isPresent := present_of_isScalar (isScalar_of_spells spells)
    have misfit : (Word.ofInt? number : Option α) = none := if_neg outside
    simp only [word, isPresent, integer?_eq_some_iff.mpr spells, misfit]
  refuses {value} scalar noInteger := by
    have nothing : integer? value = none :=
      Option.eq_none_iff_forall_ne_some.mpr fun number held =>
        noInteger number (integer?_eq_some_iff.mp held)
    simp only [word, present_of_isScalar scalar, nothing]

variable {codec : Codec (Option α)} {key : String} {low limit : Int} {toInt : α → Int}

theorem takesIntegers_required
    (takes : TakesIntegers (fun value => codec.read key (some value)) key low limit
      fun number result => result.map toInt = some number) :
    TakesIntegers (fun value => codec.required.read key (some value)) key low limit
      fun number result => toInt result = number where
  fits spells lower upper := by
    rcases takes.fits spells lower upper with ⟨result, isRead, shows⟩
    rcases Option.map_eq_some_iff.mp shows with ⟨found, rfl, same⟩
    refine ⟨found, ?_, same⟩
    simp only [required, isRead]
  exceeds spells outside := by
    simp only [required, takes.exceeds spells outside]
  refuses scalar noInteger := by
    simp only [required, takes.refuses scalar noInteger]

theorem takesIntegers_withDefault (default : α)
    (takes : TakesIntegers (fun value => codec.read key (some value)) key low limit
      fun number result => result.map toInt = some number) :
    TakesIntegers (fun value => (codec.withDefault default).read key (some value)) key low limit
      fun number result => toInt result = number := by
  have mapped (value : Json) : (codec.withDefault default).read key (some value) =
      (codec.read key (some value)).map fun found => found.getD default := by
    simp only [withDefault]
    cases codec.read key (some value) <;> rfl
  refine (takes.map (fun found => found.getD default) fun number result shows => ?_).of_eq mapped
  rcases Option.map_eq_some_iff.mp shows with ⟨found, rfl, same⟩
  exact same

end Codec

/-! ## Integers in records -/

/-- In a record whose other members can be read, integers are taken at a key. -/
def Record.TakesIntegersAt {α : Type} (record : Record α) (key : String) (low limit : Int)
    (Shows : Int → α → Prop) : Prop :=
  ∀ (members : Json.Members) (before : Json) (base : α),
    record.read (members.insert key before) = .ok base →
      TakesIntegers (fun value => record.read (members.insert key value)) key low limit Shows

theorem Replaces.takesIntegersAt {α β : Type} {record : Record α} {codec : Codec β} {key : String}
    {put : α → β → α} {low limit : Int} {Shows : Int → β → Prop} {ShowsAfter : Int → α → Prop}
    (replaces : Replaces codec key put record.read)
    (takes : TakesIntegers (fun value => codec.read key (some value)) key low limit Shows)
    (keeps : ∀ number found base, Shows number found → ShowsAfter number (put base found)) :
    record.TakesIntegersAt key low limit ShowsAfter := by
  intro members before base valid
  have mapped := replaces members before base valid
  exact (takes.map (put base) fun number found => keeps number found base).of_eq mapped

/-- Reading a block that takes integers in its records takes them where the record stands. -/
theorem Codec.HoldsRecords.takesIntegers {α β : Type} {codec : Codec β} {record : Record α}
    {recordAt? : β → Nat → Option α} {keepsAll : Bool} {key : String} {low limit : Int}
    {Shows : Int → α → Prop} (holds : codec.HoldsRecords record recordAt? keepsAll)
    (takes : record.TakesIntegersAt key low limit Shows) {blockKey : String}
    {position : Position} {members : Json.Members} {before : Json} {base : β}
    (valid : codec.read blockKey (some (position.enclose (members.insert key before))) =
      .ok base) :
    TakesIntegers
      (fun value =>
        codec.read blockKey (some (position.enclose (members.insert key value))))
      key low limit fun number result =>
        keepsAll = true ∨ position.index = 0 →
          ∃ entry, recordAt? result position.index = some entry ∧ Shows number entry := by
  rcases holds _ _ _ _ valid with ⟨place, reads, kept⟩
  rcases map_eq_ok_iff.mp ((reads _).symm.trans valid) with ⟨entry, entryRead, _⟩
  refine ((takes _ _ _ entryRead).map place fun number result shows keeps => ?_).of_eq
    fun value => reads _
  exact ⟨result, kept result keeps, shows⟩

end ViewerLogin.Wire
