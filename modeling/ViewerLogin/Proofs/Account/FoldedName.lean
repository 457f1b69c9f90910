import ViewerLogin.Account.Basic

/-!
# Folded names

An account is found under its two folded names with a space between them. Lower case makes no
new spaces, so a name that is a single word has none; and the key of two single words is the
key of no other pair of names, whatever blanks these contain.
-/

namespace ViewerLogin

/-! ## Spaces in lower case -/

namespace Text.LowerCase

theorem rows_avoid_space : ∀ row ∈ rows, row.covers (0x20 - row.shift).toNat = false := by
  decide +kernel

theorem toNat_ofNat {code : Nat} (valid : code.isValidChar) : (Char.ofNat code).toNat = code := by
  rw [Char.ofNat, dif_pos valid]
  rfl

theorem eq_space_of_ofNat {code : Nat} (isSpace : Char.ofNat code = ' ') : code = 0x20 := by
  by_cases valid : code.isValidChar
  · rw [← toNat_ofNat valid, isSpace]
    rfl
  · rw [Char.ofNat, dif_neg valid] at isSpace
    exact absurd isSpace (by decide)

theorem eq_space_of_letter {current : Char} (isSpace : letter current = ' ') : current = ' ' := by
  have moved : (current.toNat : Int) + shiftOf current.toNat = 0x20 := by
    have code := eq_space_of_ofNat isSpace
    omega
  rw [shiftOf] at moved
  split at moved
  · next row found =>
      have covered := List.find?_some found
      have avoids := rows_avoid_space row (List.mem_of_find?_eq_some found)
      have start : (0x20 - row.shift).toNat = current.toNat := by omega
      rw [start, covered] at avoids
      contradiction
  · have code : current.toNat = ' '.toNat := by
      rw [Int.add_zero] at moved
      exact Int.ofNat.inj moved
    exact Char.toNat_inj.mp code

theorem space_of_mem_character {before after : List Char} {current : Char}
    (member : ' ' ∈ character before current after) : current = ' ' := by
  unfold character at member
  split at member
  · unfold sigma at member
    split at member <;> exact absurd member (by decide)
  · split at member
    · exact absurd member (by decide)
    · exact eq_space_of_letter (List.mem_singleton.mp member).symm

theorem space_mem_of_mem_characters {before text : List Char}
    (member : ' ' ∈ characters before text) : ' ' ∈ text := by
  induction text generalizing before with
  | nil => exact member
  | cons first rest induction =>
      rcases List.mem_append.mp member with inFirst | inRest
      · rw [space_of_mem_character inFirst]
        exact List.mem_cons_self
      · exact List.mem_cons_of_mem _ (induction inRest)

end Text.LowerCase

namespace Account

/-! ## Names of one word -/

theorem faultOf?_eq_none_iff {name : String} : faultOf? name = none ↔ Text.isWord name = true := by
  unfold faultOf? Text.isWord
  split
  · next blank => simp [blank]
  · next filled => simp [filled]

theorem space_not_mem_foldName {name : String} (sound : faultOf? name = none) :
    ' ' ∉ (foldName name).toList := by
  have word := faultOf?_eq_none_iff.mp sound
  rw [Text.isWord, Bool.and_eq_true, Bool.not_eq_true', Bool.not_eq_true', List.any_eq_false] at word
  intro member
  rw [foldName, Text.lowerCase, Text.trim, String.toList_ofList, String.toList_ofList] at member
  exact word.2 ' ' (Text.LowerCase.space_mem_of_mem_characters member) rfl

/-! ## Keys of pairs -/

theorem append_space_inj {first last otherFirst otherLast : List Char}
    (firstClear : ' ' ∉ first) (lastClear : ' ' ∉ last)
    (same : otherFirst ++ ' ' :: otherLast = first ++ ' ' :: last) :
    otherFirst = first ∧ otherLast = last := by
  -- Neither side has a space of its own, so both are cut at the same place.
  induction first generalizing otherFirst with
  | nil =>
      cases otherFirst with
      | nil => exact ⟨rfl, (List.cons.inj same).2⟩
      | cons head tail =>
          have inLast : ' ' ∈ last := by
            rw [← (List.cons.inj same).2]
            exact List.mem_append_right _ List.mem_cons_self
          exact absurd inLast lastClear
  | cons head tail induction =>
      cases otherFirst with
      | nil =>
          have atHead : ' ' = head := (List.cons.inj same).1
          exact absurd (atHead ▸ List.mem_cons_self) firstClear
      | cons otherHead otherTail =>
          rcases List.cons.inj same with ⟨heads, tails⟩
          have tailClear : ' ' ∉ tail := fun member => firstClear (List.mem_cons_of_mem _ member)
          rcases induction tailClear tails with ⟨tailsSame, lastSame⟩
          exact ⟨by rw [heads, tailsSame], lastSame⟩

end Account

structure FoldedName where
  first : String
  last : String
  deriving DecidableEq, Repr

namespace FoldedName

def of (first last : String) : FoldedName := ⟨Account.foldName first, Account.foldName last⟩

def key (name : FoldedName) : String := name.first ++ " " ++ name.last

end FoldedName

namespace Account

def foldedName (account : Account) : FoldedName := .of account.first account.last

theorem nameFault?_eq_none_iff {account : Account} :
    account.nameFault? = none ↔ faultOf? account.first = none ∧ faultOf? account.last = none := by
  rw [nameFault?, Option.or_eq_none_iff]

end Account

theorem FoldedName.key_eq_key_iff {account : Account} (sound : account.nameFault? = none)
    (name : FoldedName) : name.key = account.key ↔ name = account.foldedName := by
  rcases Account.nameFault?_eq_none_iff.mp sound with ⟨firstSound, lastSound⟩
  constructor
  · intro same
    have characters := congrArg String.toList same
    simp only [key, Account.key, Account.keyOf, String.toList_append, List.append_assoc]
      at characters
    rcases Account.append_space_inj (Account.space_not_mem_foldName firstSound)
      (Account.space_not_mem_foldName lastSound) characters with ⟨firstSame, lastSame⟩
    have sameFirst : name.first = Account.foldName account.first := String.toList_inj.mp firstSame
    have sameLast : name.last = Account.foldName account.last := String.toList_inj.mp lastSame
    rw [Account.foldedName, of, ← sameFirst, ← sameLast]
  · rintro rfl
    rfl

namespace Account

theorem keyOf_eq_key_iff {account : Account} (sound : account.nameFault? = none)
    (first last : String) :
    keyOf first last = account.key ↔ FoldedName.of first last = account.foldedName :=
  FoldedName.key_eq_key_iff sound (.of first last)

/-- Names of several words do meet under one key, which is why no account may have them. -/
example : keyOf "Ruth" "Ann Linden" = keyOf "Ruth Ann" "Linden" := by decide +kernel

end Account

end ViewerLogin
