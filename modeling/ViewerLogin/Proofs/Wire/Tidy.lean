import Mathlib.Data.List.DropRight
import ViewerLogin.Proofs.Wire.Coordinate

/-!
# Coordinates as they are read

Coordinates come in many spellings: with the tag or without it, as texts or as numbers, in a
list or in one text with brackets. What is read of any of them is tidy.
-/

namespace ViewerLogin

namespace Text

/-! ## The ends of texts -/

theorem dropEndWhile_eq_rdropWhile (test : Char → Bool) (characters : List Char) :
    dropEndWhile test characters = characters.rdropWhile test := rfl

theorem trimCharacters_eq_nil_iff {characters : List Char} :
    trimCharacters characters = [] ↔ ∀ each ∈ characters, isBlank each = true := by
  rw [trimCharacters, dropEndWhile_eq_rdropWhile, List.rdropWhile_eq_nil_iff,
    ← List.dropWhile_eq_nil_iff, List.dropWhile_idempotent, List.dropWhile_eq_nil_iff]

theorem isBlank_getLast_trimCharacters {characters : List Char}
    (nonempty : trimCharacters characters ≠ []) :
    isBlank ((trimCharacters characters).getLast nonempty) = false :=
  Bool.eq_false_iff.mpr (List.rdropWhile_last_not isBlank (characters.dropWhile isBlank) nonempty)

end Text

/-! ## The characters of numbers -/

namespace Decimal

def isNumeric (character : Char) : Bool := character.isDigit || ".-+e".toList.contains character

theorem isNumeric_of_isDigit {character : Char} (digit : character.isDigit = true) :
    isNumeric character = true := by
  rw [isNumeric, digit, Bool.true_or]

theorem isBlank_of_isNumeric {character : Char} (numeric : isNumeric character = true) :
    Text.isBlank character = false := by
  rcases Bool.or_eq_true_iff.mp numeric with digit | sign
  · have range : 0x30 ≤ character.toNat ∧ character.toNat ≤ 0x39 := by
      simpa [Char.isDigit, UInt32.le_iff_toNat_le] using digit
    simp only [Text.isBlank, Bool.or_eq_false_iff, Bool.and_eq_false_iff, decide_eq_false_iff_not,
      beq_eq_false_iff_ne]
    omega
  · have signs : ".-+e".toList.any Text.isBlank = false := by decide +kernel
    exact Bool.eq_false_iff.mpr (List.any_eq_false.mp signs _ (List.contains_iff_mem.mp sign))

theorem isNumeric_of_mem_natural {value : Nat} {character : Char}
    (member : character ∈ natural value) : isNumeric character = true :=
  isNumeric_of_isDigit (Nat.isDigit_of_mem_toDigits (by decide) (by decide) member)

theorem isNumeric_of_mem_integer {value : Int} {character : Char}
    (member : character ∈ integer value) : isNumeric character = true := by
  cases value with
  | ofNat value => exact isNumeric_of_mem_natural member
  | negSucc below =>
      rcases List.mem_cons.mp member with rfl | inNatural
      · decide
      · exact isNumeric_of_mem_natural inNatural

namespace Shortest

theorem isDigit_of_mem_search {interval : Interval} {point : Int} {tries count : Nat}
    {character : Char} (member : character ∈ (search interval point tries count).digits) :
    character.isDigit = true := by
  fun_induction search interval point tries count with
  | case1 =>
      rw [List.mem_singleton.mp member]
      decide
  | case2 _ _ value =>
      have inDigits : character ∈ Nat.toDigits 10 value :=
        List.mem_reverse.mp ((List.dropWhile_sublist _).mem (List.mem_reverse.mp member))
      exact Nat.isDigit_of_mem_toDigits (by decide) (by decide) inDigits
  | case3 _ _ _ induction => exact induction member

theorem isDigit_of_mem_digits {magnitude : Magnitude} {character : Char}
    (member : character ∈ (ofMagnitude magnitude).digits) : character.isDigit = true := by
  unfold ofMagnitude at member
  split at member
  · rw [List.mem_singleton.mp member]
    decide
  · exact isDigit_of_mem_search member

variable {shortest : Shortest}

theorem positional_numeric (numeric : ∀ each ∈ shortest.digits, isNumeric each = true) :
    ∀ each ∈ shortest.positional, isNumeric each = true := by
  have zeros (count : Nat) : ∀ each ∈ List.replicate count '0', isNumeric each = true := by
    intro each member
    rw [List.eq_of_mem_replicate member]
    decide
  unfold positional
  split
  · simp only [List.forall_mem_append]
    exact ⟨⟨List.all_eq_true.mp (by decide), zeros _⟩, numeric⟩
  · simp only [List.forall_mem_append, List.forall_mem_cons]
    refine ⟨⟨fun each member => numeric each (List.mem_of_mem_take member), zeros _⟩,
      by decide, ?_⟩
    split
    · exact zeros 1
    · exact fun each member => numeric each (List.mem_of_mem_drop member)

theorem scientific_numeric (numeric : ∀ each ∈ shortest.digits, isNumeric each = true) :
    ∀ each ∈ shortest.scientific, isNumeric each = true := by
  unfold scientific
  simp only [List.forall_mem_append, List.forall_mem_cons]
  refine ⟨⟨fun each member => numeric each (List.mem_of_mem_take member), ?_⟩, by decide, ?_,
    fun each member => isNumeric_of_mem_natural member⟩
  · split
    · exact nofun
    · exact List.forall_mem_cons.mpr
        ⟨by decide, fun each member => numeric each (List.mem_of_mem_drop member)⟩
  · split <;> decide

theorem scientific_ne_nil (shortest : Shortest) : shortest.scientific ≠ [] :=
  List.append_ne_nil_of_right_ne_nil _ (List.cons_ne_nil _ _)

theorem positional_ne_nil (shortest : Shortest) : shortest.positional ≠ [] := by
  unfold positional
  split
  · exact List.append_ne_nil_of_left_ne_nil (List.append_ne_nil_of_left_ne_nil (by decide) _) _
  · exact List.append_ne_nil_of_right_ne_nil _ (List.cons_ne_nil _ _)

end Shortest

end Decimal

namespace Number

theorem characters_numeric (number : Number) :
    ∀ each ∈ number.characters, Decimal.isNumeric each = true := by
  cases number with
  | integer value => exact fun each member => Decimal.isNumeric_of_mem_integer member
  | real value =>
      have digits : ∀ each ∈ (Decimal.Shortest.ofMagnitude value.magnitude).digits,
          Decimal.isNumeric each = true := fun each member =>
        Decimal.isNumeric_of_isDigit (Decimal.Shortest.isDigit_of_mem_digits member)
      rw [characters, Decimal.Binary64.layOut, List.forall_mem_append, Decimal.Shortest.layOut]
      constructor
      · split
        · exact List.all_eq_true.mp (by decide)
        · exact nofun
      · split
        · exact Decimal.Shortest.positional_numeric digits
        · exact Decimal.Shortest.scientific_numeric digits

theorem characters_ne_nil (number : Number) : number.characters ≠ [] := by
  cases number with
  | integer value =>
      cases value with
      | ofNat value => exact Nat.toDigits_ne_nil
      | negSucc below => exact List.cons_ne_nil _ _
  | real value =>
      rw [characters, Decimal.Binary64.layOut, Decimal.Shortest.layOut]
      apply List.append_ne_nil_of_right_ne_nil
      split
      · exact Decimal.Shortest.positional_ne_nil _
      · exact Decimal.Shortest.scientific_ne_nil _

end Number

namespace Wire

theorem tidy_ofList {characters : List Char} (nonempty : characters ≠ [])
    (visible : Text.isBlank (characters.getLast nonempty) = false)
    (different : characters ≠ placeholder.toList) : Tidy (some (String.ofList characters)) := by
  rintro _ ⟨⟩
  refine ⟨?_, ?_, ?_⟩
  · intro same
    rw [← same, String.toList_ofList] at different
    contradiction
  · rw [Text.isBlankText, String.toList_ofList, List.isEmpty_eq_false_iff]
    intro nothing
    have blank := Text.trimCharacters_eq_nil_iff.mp nothing _ (List.getLast_mem nonempty)
    rw [visible] at blank
    contradiction
  · have kept : Text.dropEndWhile Text.isBlank characters = characters :=
      List.rdropWhile_eq_self_iff.mpr fun _ => Bool.eq_false_iff.mp visible
    rw [Text.trimEnd, String.toList_ofList, kept]

/-! ## Texts -/

theorem removeTag_suffix (characters : List Char) : removeTag characters <:+ characters := by
  unfold removeTag
  split
  · exact List.suffix_rfl
  · split
    · exact List.suffix_cons _ _
    · exact List.suffix_rfl

theorem tidy_untag (characters : List Char) : Tidy (untag characters) := by
  unfold untag
  simp only
  split
  · exact fun text member => absurd member (Option.not_mem_none text)
  · next kept =>
      have suffix := removeTag_suffix (Text.trimCharacters characters)
      refine tidy_ofList (fun nothing => kept (.inl nothing)) ?_ fun same => kept (.inr same)
      rw [suffix.getLast]
      exact Text.isBlank_getLast_trimCharacters _

/-! ## Numbers -/

theorem tidy_number (number : Number) : Tidy (some number.text) := by
  apply tidy_ofList number.characters_ne_nil
  · exact Decimal.isBlank_of_isNumeric (number.characters_numeric _ (List.getLast_mem _))
  · intro same
    have numeric := number.characters_numeric 'N' (same ▸ by decide +kernel)
    exact absurd numeric (by decide)

/-! ## Lists -/

theorem tidy_splitCoordinates (characters : List Char) :
    ∀ each ∈ splitCoordinates characters, Tidy each := by
  intro each member
  rcases List.mem_map.mp member with ⟨piece, _, rfl⟩
  exact tidy_untag piece

theorem tidy_of_readItem {key : String} {item : Json} {coordinate : Coordinate}
    (read : readItem key item = .ok coordinate) : Tidy coordinate := by
  cases item with
  | text text =>
      cases read
      exact tidy_untag _
  | number number =>
      cases read
      exact tidy_number number
  | _ => contradiction

theorem tidy_of_readItems {key : String} {items : List Json} {coordinates : List Coordinate}
    (read : readItems key items = .ok coordinates) : ∀ each ∈ coordinates, Tidy each := by
  induction items generalizing coordinates with
  | nil =>
      cases read
      exact nofun
  | cons first rest induction =>
      rw [readItems] at read
      split at read
      · contradiction
      · next coordinate firstRead =>
          split at read
          · contradiction
          · next others restRead =>
              cases read
              exact List.forall_mem_cons.mpr ⟨tidy_of_readItem firstRead, induction restRead⟩

theorem Codec.tidy_of_coordinates {α : Type} {size : Nat} {toList : α → List Coordinate}
    {ofList? : List Coordinate → Option α} {unset : α}
    (gathers : ∀ found value, ofList? found = some value → toList value = found)
    (unsetTidy : ∀ each ∈ toList unset, Tidy each) {key : String} {slot : Option Json} {value : α}
    (read : (coordinates size toList ofList? unset).read key slot = .ok value) :
    ∀ each ∈ toList value, Tidy each := by
  have kept {found : List Coordinate} {gathered : α} (tidy : ∀ each ∈ found, Tidy each)
      (collected : ofList? found = some gathered) : ∀ each ∈ toList gathered, Tidy each := by
    rwa [gathers _ _ collected]
  simp only [coordinates] at read
  split at read
  · cases read
    exact unsetTidy
  · split at read
    · contradiction
    · next found itemsRead =>
        split at read
        · next collected =>
            cases read
            exact kept (tidy_of_readItems itemsRead) collected
        · contradiction
  · split at read
    · next collected =>
        cases read
        exact kept (tidy_splitCoordinates _) collected
    · contradiction
  · contradiction

end Wire

/-! ## Places and points -/

theorem Place.toList_of_ofList? (found : List Coordinate) (place : Place)
    (gathered : ofList? found = some place) : place.toList = found := by
  unfold ofList? at gathered
  split at gathered
  · cases gathered
    rfl
  · contradiction

theorem Point.toList_of_ofList? (found : List Coordinate) (point : Point)
    (gathered : ofList? found = some point) : point.toList = found := by
  unfold ofList? at gathered
  split at gathered
  · cases gathered
    rfl
  · contradiction

theorem Place.tidy_of_read {key : String} {slot : Option Json} {place : Place}
    (read : Wire.Codec.place.read key slot = .ok place) : ∀ each ∈ place.toList, Wire.Tidy each :=
  Wire.Codec.tidy_of_coordinates toList_of_ofList? (by decide) read

theorem Point.tidy_of_read {key : String} {slot : Option Json} {point : Point}
    (read : Wire.Codec.point.read key slot = .ok point) : ∀ each ∈ point.toList, Wire.Tidy each :=
  Wire.Codec.tidy_of_coordinates toList_of_ofList? (by decide) read

end ViewerLogin
