import ViewerLogin.Proofs.Text.Trim
import ViewerLogin.Text.LowerCase

/-!
# Letters of ASCII in either case

A text may be spelled in other cases of its ASCII letters and with other blanks around it. None
of this shows when it is trimmed and put in lower case: a capital of ASCII is cased and visible
just as its small letter is, so that no sigma beside it takes another form.
-/

namespace ViewerLogin.Text

/-! ## Letters -/

def IsLetter (character : Char) : Prop :=
  (0x41 ≤ character.toNat ∧ character.toNat ≤ 0x5A) ∨
    (0x61 ≤ character.toNat ∧ character.toNat ≤ 0x7A)

theorem toNat_of_isUpper {character : Char} (upper : character.isUpper = true) :
    0x41 ≤ character.toNat ∧ character.toNat ≤ 0x5A := by
  have inside : character.val ≥ 'A'.val ∧ character.val ≤ 'Z'.val := of_decide_eq_true upper
  exact ⟨UInt32.le_iff_toNat_le.mp inside.1, UInt32.le_iff_toNat_le.mp inside.2⟩

theorem toNat_toLower {character : Char} (upper : character.isUpper = true) :
    character.toLower.toNat = character.toNat + 0x20 := by
  have inside : character.val ≥ 'A'.val ∧ character.val ≤ 'Z'.val := of_decide_eq_true upper
  have lowered : character.toLower.val = character.val + ('a'.val - 'A'.val) :=
    congrArg Char.val (dif_pos inside)
  have sum : character.toLower.toNat = (character.toNat + 0x20) % 2 ^ 32 :=
    (congrArg UInt32.toNat lowered).trans (UInt32.toNat_add _ _)
  have range := toNat_of_isUpper upper
  omega

theorem toLower_of_not_isUpper {character : Char} (notUpper : ¬character.isUpper = true) :
    character.toLower = character :=
  dif_neg fun inside => notUpper (decide_eq_true inside)

theorem apply_toLower {Value : Type} {property : Char → Value} {value : Value}
    (same : ∀ letter, IsLetter letter → property letter = value) (character : Char) :
    property character.toLower = property character := by
  by_cases upper : character.isUpper = true
  · have range := toNat_of_isUpper upper
    have lowered := toNat_toLower upper
    rw [same character (.inl range), same character.toLower (.inr (by omega))]
  · rw [toLower_of_not_isUpper upper]

theorem isBlank_of_isLetter {character : Char} (letter : IsLetter character) :
    isBlank character = false := by
  simp only [isBlank, Bool.or_eq_false_iff, Bool.and_eq_false_iff, decide_eq_false_iff_not,
    beq_eq_false_iff_ne]
  simp only [IsLetter] at letter
  omega

theorem isBlank_toLower (character : Char) : isBlank character.toLower = isBlank character :=
  apply_toLower (fun _ => isBlank_of_isLetter) character

namespace LowerCase

theorem isCased_of_isLetter {character : Char} (letter : IsLetter character) :
    isCased character = true := by
  rw [isCased, inRanges, List.any_eq_true]
  obtain large | small := letter
  · exact ⟨(0x41, 0x5A), by decide, by simpa using large⟩
  · exact ⟨(0x61, 0x7A), by decide, by simpa using small⟩

theorem isIgnorable_of_isLetter {character : Char} (letter : IsLetter character) :
    isIgnorable character = false := by
  have apart : (ignorableRanges.all fun range =>
      range.2 < 0x41 || (0x5A < range.1 && range.2 < 0x61) || 0x7A < range.1) = true := by
    decide +kernel
  rw [isIgnorable, inRanges, List.any_eq_false]
  intro range member covered
  have beside := List.all_eq_true.mp apart range member
  simp only [Bool.or_eq_true, Bool.and_eq_true, decide_eq_true_eq] at beside covered
  simp only [IsLetter] at letter
  omega

theorem isCased_toLower (character : Char) : isCased character.toLower = isCased character :=
  apply_toLower (fun _ => isCased_of_isLetter) character

theorem isIgnorable_toLower (character : Char) :
    isIgnorable character.toLower = isIgnorable character :=
  apply_toLower (fun _ => isIgnorable_of_isLetter) character

theorem toLower_eq_iff {special : Char} (beyond : 0x7A < special.toNat) (character : Char) :
    character.toLower = special ↔ character = special := by
  have different : ∀ letter, IsLetter letter → (letter = special) = False := by
    intro letter isLetter
    apply eq_false
    intro same
    rw [← same] at beyond
    simp only [IsLetter] at isLetter
    omega
  exact iff_of_eq (apply_toLower different character)

theorem shiftOf_of_small {code : Nat} (above : 0x5A < code) (below : code < 0xC0) :
    shiftOf code = 0 := by
  have apart : (rows.all fun row => row.last ≤ 0x5A || 0xC0 ≤ row.first) = true := by
    decide +kernel
  have uncovered : rows.find? (·.covers code) = none := by
    rw [List.find?_eq_none]
    intro row member covered
    have beside := List.all_eq_true.mp apart row member
    simp only [Row.covers, Bool.and_eq_true, decide_eq_true_eq] at covered
    simp only [Bool.or_eq_true, decide_eq_true_eq] at beside
    omega
  rw [shiftOf, uncovered]

theorem shiftOf_of_capital {code : Nat} (low : 0x41 ≤ code) (high : code ≤ 0x5A) :
    shiftOf code = 0x20 := by
  have capitals : ((List.range' 0x41 26).all fun code => shiftOf code = 0x20) = true := by
    decide +kernel
  have member : code ∈ List.range' 0x41 26 := List.mem_range'_1.mpr ⟨low, by omega⟩
  exact of_decide_eq_true (List.all_eq_true.mp capitals code member)

theorem letter_toLower (character : Char) : letter character.toLower = letter character := by
  by_cases upper : character.isUpper = true
  · obtain ⟨low, high⟩ := toNat_of_isUpper upper
    have lowered := toNat_toLower upper
    rw [letter, letter, lowered, shiftOf_of_capital low high,
      shiftOf_of_small (by omega) (by omega)]
    rfl
  · rw [toLower_of_not_isUpper upper]

theorem startsCased_map_toLower (characters : List Char) :
    startsCased (characters.map Char.toLower) = startsCased characters := by
  have ignorable : isIgnorable ∘ Char.toLower = isIgnorable := funext isIgnorable_toLower
  rw [startsCased, startsCased, List.dropWhile_map, ignorable]
  cases characters.dropWhile isIgnorable with
  | nil => rfl
  | cons first rest => exact isCased_toLower first

theorem character_toLower (before after : List Char) (current : Char) :
    character (before.map Char.toLower) current.toLower (after.map Char.toLower) =
      character before current after := by
  have isSigma : current.toLower = 'Σ' ↔ current = 'Σ' := toLower_eq_iff (by decide) current
  have isDotted : current.toLower = 'İ' ↔ current = 'İ' := toLower_eq_iff (by decide) current
  simp only [character, isSigma, isDotted, letter_toLower, sigma, startsCased_map_toLower]

theorem characters_map_toLower (before text : List Char) :
    characters (before.map Char.toLower) (text.map Char.toLower) = characters before text := by
  -- What stands before a sigma decides its form, so it is carried along.
  induction text generalizing before with
  | nil => rfl
  | cons current after induction =>
      have rest := induction (current :: before)
      rw [List.map_cons] at rest
      rw [List.map_cons, characters, characters, character_toLower, rest]

end LowerCase

/-! ## Trimming -/

theorem isBlank_comp_toLower : isBlank ∘ Char.toLower = isBlank := funext isBlank_toLower

theorem trimCharacters_map_toLower (text : List Char) :
    trimCharacters (text.map Char.toLower) = (trimCharacters text).map Char.toLower := by
  rw [trimCharacters, trimCharacters, dropEndWhile, dropEndWhile, List.dropWhile_map,
    isBlank_comp_toLower, ← List.map_reverse, List.dropWhile_map, isBlank_comp_toLower,
    List.map_reverse]

def Padded (core text : List Char) : Prop :=
  ∃ before after, (∀ each ∈ before, isBlank each = true) ∧
    (∀ each ∈ after, isBlank each = true) ∧ text = before ++ core ++ after

theorem Padded.refl (text : List Char) : Padded text text :=
  ⟨[], [], List.forall_mem_nil _, List.forall_mem_nil _, (List.append_nil text).symm⟩

theorem trimCharacters_of_padded {core text : List Char} (padded : Padded core text) :
    trimCharacters text = trimCharacters core := by
  obtain ⟨before, after, beforeBlank, afterBlank, same⟩ := padded
  rw [same, trimCharacters_of_blanks_around beforeBlank afterBlank]

/-! ## Spellings -/

def Alike (left right : String) : Prop :=
  ∃ leftCore rightCore, Padded leftCore left.toList ∧ Padded rightCore right.toList ∧
    leftCore.map Char.toLower = rightCore.map Char.toLower

theorem Alike.map_trimCharacters_eq {left right : String} (alike : Alike left right) :
    (trimCharacters left.toList).map Char.toLower =
      (trimCharacters right.toList).map Char.toLower := by
  obtain ⟨leftCore, rightCore, leftPadded, rightPadded, same⟩ := alike
  rw [trimCharacters_of_padded leftPadded, trimCharacters_of_padded rightPadded,
    ← trimCharacters_map_toLower, same, trimCharacters_map_toLower]

theorem Alike.isBlankText_eq {left right : String} (alike : Alike left right) :
    isBlankText left = isBlankText right := by
  have lengths := congrArg List.isEmpty alike.map_trimCharacters_eq
  rwa [List.isEmpty_map, List.isEmpty_map] at lengths

theorem Alike.lowerCase_trim_eq {left right : String} (alike : Alike left right) :
    lowerCase (trim left) = lowerCase (trim right) := by
  rw [lowerCase, lowerCase, trim, trim, String.toList_ofList, String.toList_ofList]
  apply congrArg String.ofList
  calc LowerCase.characters [] (trimCharacters left.toList)
    _ = LowerCase.characters [] ((trimCharacters left.toList).map Char.toLower) :=
        (LowerCase.characters_map_toLower [] _).symm
    _ = LowerCase.characters [] ((trimCharacters right.toList).map Char.toLower) := by
        rw [alike.map_trimCharacters_eq]
    _ = LowerCase.characters [] (trimCharacters right.toList) :=
        LowerCase.characters_map_toLower [] _

end ViewerLogin.Text
