import ViewerLogin.Proofs.Wire.Codec
import ViewerLogin.Wire.Coordinate

/-!
# Spellings that read alike

A codec looks only at what is set in its slot, so that a missing key, a null and the placeholder
are the same to it. A record looks only at its own keys, and one that stands alone is read like
a list of it. None of this depends on whether the reading succeeds: failures are alike too.
-/

namespace ViewerLogin.Wire

/-! ## What is set -/

theorem present_present (slot : Option Json) : present (present slot) = present slot := by
  simp [present, Option.filter_filter]

inductive IsUnset : Option Json → Prop where
  | absent : IsUnset none
  | null : IsUnset (some .null)
  | named : IsUnset (some (.text "None"))

theorem present_of_isUnset {slot : Option Json} (isUnset : IsUnset slot) : present slot = none := by
  cases isUnset with
  | absent => rfl
  | null => rfl
  | named => exact present_placeholder

def SameAt (keys : List String) (left right : Json.Members) : Prop :=
  ∀ key ∈ keys, left.get? key = right.get? key ∨
    (IsUnset (left.get? key) ∧ IsUnset (right.get? key))

theorem SameAt.present_eq {keys : List String} {left right : Json.Members}
    (same : SameAt keys left right) :
    ∀ key ∈ keys, present (left.get? key) = present (right.get? key) := by
  intro key member
  rcases same key member with sameSlot | ⟨leftUnset, rightUnset⟩
  · rw [sameSlot]
  · rw [present_of_isUnset leftUnset, present_of_isUnset rightUnset]

inductive Inside (keys : List String) : Json → Json → Prop where
  | alone {left right : Json.Members} (same : SameAt keys left right) :
      Inside keys (.map left) (.map right)
  | listed (before after : List Json) {left right : Json.Members}
      (same : SameAt keys left right) :
      Inside keys (.list (before ++ .map left :: after)) (.list (before ++ .map right :: after))

/-! ## Records -/

namespace Record

variable {α : Type} {record : Record α} {keys : List String}

/-- Only what is set under these keys matters. -/
def ReadsOnly (record : Record α) (keys : List String) : Prop :=
  ∀ left right : Json.Members,
    (∀ key ∈ keys, present (left.get? key) = present (right.get? key)) →
      record.read left = record.read right

theorem readList_present (record : Record α) (key : String) (slot : Option Json) :
    record.readList key (present slot) = record.readList key slot := by
  rw [readList, readList, present_present]

theorem readFirst_present (record : Record α) (key : String) (slot : Option Json) :
    record.readFirst key (present slot) = record.readFirst key slot := by
  rw [readFirst, readFirst, present_present, readList_present]

theorem readFirst_singleton (record : Record α) (key : String) (members : Json.Members) :
    record.readFirst key (some (.list [.map members])) =
      record.readFirst key (some (.map members)) := by
  have alone : record.readFirst key (some (.map members)) = (record.read members).map some := rfl
  have listed : record.readFirst key (some (.list [.map members])) =
      (record.readItems key [.map members]).map List.head? := rfl
  rw [alone, listed, readItems]
  cases record.read members <;> rfl

namespace ReadsOnly

theorem readItems (only : record.ReadsOnly keys) (key : String) {left right : Json.Members}
    (same : SameAt keys left right) (before after : List Json) :
    record.readItems key (before ++ .map left :: after) =
      record.readItems key (before ++ .map right :: after) := by
  induction before with
  | nil => simp only [List.nil_append, Record.readItems, only left right same.present_eq]
  | cons first rest induction =>
      cases first with
      | map members => simp only [List.cons_append, Record.readItems, induction]
      | _ => rfl

theorem readList (only : record.ReadsOnly keys) (key : String) {left right : Json}
    (inside : Inside keys left right) :
    record.readList key (some left) = record.readList key (some right) := by
  cases inside with
  | alone _ => rfl
  | listed before after same => exact only.readItems key same before after

theorem readFirst (only : record.ReadsOnly keys) (key : String) {left right : Json}
    (inside : Inside keys left right) :
    record.readFirst key (some left) = record.readFirst key (some right) := by
  cases inside with
  | alone same => exact congrArg (Except.map some) (only _ _ same.present_eq)
  | listed before after same =>
      exact congrArg (Except.map List.head?) (only.readItems key same before after)

end ReadsOnly

end Record

namespace Codec

variable {α : Type} {codec : Codec α} {keys : List String}

/-! ## Codecs that skip what is unset -/

def SkipsUnset (codec : Codec α) : Prop :=
  ∀ key slot, codec.read key (present slot) = codec.read key slot

namespace SkipsUnset

theorem read_congr (skips : codec.SkipsUnset) (key : String) {left right : Option Json}
    (same : present left = present right) : codec.read key left = codec.read key right := by
  rw [← skips key left, same, skips key right]

theorem readAt_congr (skips : codec.SkipsUnset) {key : String} {left right : Json.Members}
    (same : present (left.get? key) = present (right.get? key)) :
    codec.readAt left key = codec.readAt right key :=
  skips.read_congr key same

theorem required {codec : Codec (Option α)} (skips : codec.SkipsUnset) :
    codec.required.SkipsUnset := by
  intro key slot
  simp only [Codec.required, skips key slot]

theorem withDefault {codec : Codec (Option α)} (skips : codec.SkipsUnset) (default : α) :
    (codec.withDefault default).SkipsUnset := by
  intro key slot
  simp only [Codec.withDefault, skips key slot]

end SkipsUnset

theorem skipsUnset_text : text.SkipsUnset := by
  intro key slot
  simp only [text, present_present]

theorem skipsUnset_spelled (spell : α → String) (parse? : String → Option α) :
    (spelled spell parse?).SkipsUnset := by
  intro key slot
  simp only [spelled, skipsUnset_text key slot]

theorem skipsUnset_uuid : uuid.SkipsUnset := skipsUnset_spelled _ _

theorem skipsUnset_flag : flag.SkipsUnset := skipsUnset_spelled _ _

theorem skipsUnset_truth : truth.SkipsUnset := by
  intro key slot
  simp only [truth, present_present]

theorem skipsUnset_word [Word α] : (word : Codec (Option α)).SkipsUnset := by
  intro key slot
  simp only [word, present_present]

theorem skipsUnset_coordinates (size : Nat) (toList : α → List Coordinate)
    (ofList? : List Coordinate → Option α) (unset : α) :
    (coordinates size toList ofList? unset).SkipsUnset := by
  intro key slot
  simp only [coordinates, present_present]

theorem skipsUnset_place : place.SkipsUnset := skipsUnset_coordinates _ _ _ _

theorem skipsUnset_point : point.SkipsUnset := skipsUnset_coordinates _ _ _ _

theorem skipsUnset_listOf (record : Record α) : (listOf record).SkipsUnset :=
  record.readList_present

theorem skipsUnset_reference (record : Record α) : (reference record).SkipsUnset :=
  record.readFirst_present

theorem skipsUnset_single (record : Record α) (default : α) :
    (single record default).SkipsUnset := by
  intro key slot
  simp only [single, record.readFirst_present key slot]

/-- What is unset is not a list, and everything that is no list counts as empty. -/
theorem skipsUnset_items : items.SkipsUnset := by
  intro key slot
  cases unset : present slot with
  | none =>
      cases slot with
      | none => rfl
      | some value =>
          cases value with
          | list _ => contradiction
          | _ => rfl
  | some value =>
      have found := (Option.filter_eq_some_iff.mp unset).1
      rw [found]

/-! ## Codecs of maps -/

def ReadsInside (codec : Codec α) (keys : List String) : Prop :=
  ∀ key left right, Inside keys left right →
    codec.read key (some left) = codec.read key (some right)

theorem readsInside_listOf {record : Record α} (only : record.ReadsOnly keys) :
    (listOf record).ReadsInside keys :=
  fun key _ _ => only.readList key

theorem readsInside_reference {record : Record α} (only : record.ReadsOnly keys) :
    (reference record).ReadsInside keys :=
  fun key _ _ => only.readFirst key

theorem readsInside_single {record : Record α} (only : record.ReadsOnly keys) (default : α) :
    (single record default).ReadsInside keys :=
  fun key _ _ inside => congrArg (Except.map (Option.getD · default)) (only.readFirst key inside)

def TakesSingleton (codec : Codec α) : Prop :=
  ∀ key members,
    codec.read key (some (.list [.map members])) = codec.read key (some (.map members))

theorem takesSingleton_reference (record : Record α) : (reference record).TakesSingleton :=
  record.readFirst_singleton

theorem takesSingleton_single (record : Record α) (default : α) :
    (single record default).TakesSingleton :=
  fun key members =>
    congrArg (Except.map (Option.getD · default)) (record.readFirst_singleton key members)

/-! ## Truth values -/

theorem read_truth_text (key : String) (value : Bool) :
    truth.read key (some (.text (truthText value))) = truth.read key (some (.truth value)) := by
  cases value <;> rfl

end Codec

end ViewerLogin.Wire
