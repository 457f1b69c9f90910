import ViewerLogin.Text.Utf8

/-!
# UTF-8 read back

Each of the four lengths of an encoded character is read as that character, so that an encoded
text reads as its characters without any stray octets.
-/

namespace ViewerLogin.Text.Utf8

theorem toNat_toUInt8 {value : Nat} (small : value < 0x100) : value.toUInt8.toNat = value :=
  Nat.mod_eq_of_lt small

theorem continuation?_cons {bits : Nat} (small : bits < 0x40) (count code : Nat)
    (rest : List UInt8) :
    continuation? (count + 1) code ((0x80 + bits).toUInt8 :: rest) =
      continuation? count (code * 0x40 + bits) rest := by
  have octet : (0x80 + bits).toUInt8.toNat = 0x80 + bits := toNat_toUInt8 (by omega)
  rw [continuation?, octet, if_pos (by omega), Nat.add_sub_cancel_left]

theorem scalar?_toNat {least : Nat} {character : Char} (above : least ≤ character.toNat) :
    scalar? least character.toNat = some character := by
  rw [scalar?, if_pos ⟨above, character.valid⟩, Char.ofNat_toNat]

/-! ## One character -/

theorem character?_one {character : Char} (small : character.toNat < 0x80) (rest : List UInt8) :
    character? (character.toNat.toUInt8 :: rest) = some (character, 0) := by
  have lead : character.toNat.toUInt8.toNat = character.toNat := toNat_toUInt8 (by omega)
  simp only [character?, lead]
  rw [if_pos small, Char.ofNat_toNat]

theorem character?_two {character : Char} (above : 0x80 ≤ character.toNat)
    (below : character.toNat < 0x800) (rest : List UInt8) :
    character? ((0xC0 + character.toNat / 0x40).toUInt8 ::
        (0x80 + character.toNat % 0x40).toUInt8 :: rest) = some (character, 1) := by
  have lead : (0xC0 + character.toNat / 0x40).toUInt8.toNat = 0xC0 + character.toNat / 0x40 :=
    toNat_toUInt8 (by omega)
  have code : character.toNat / 0x40 * 0x40 + character.toNat % 0x40 = character.toNat := by
    omega
  simp only [character?, lead]
  rw [if_neg (by omega), if_neg (by omega), if_pos (by omega), Nat.add_sub_cancel_left,
    continuation?_cons (by omega), code, continuation?, Option.bind_some, scalar?_toNat above]
  rfl

theorem character?_three {character : Char} (above : 0x800 ≤ character.toNat)
    (below : character.toNat < 0x10000) (rest : List UInt8) :
    character? ((0xE0 + character.toNat / 0x1000).toUInt8 ::
        (0x80 + character.toNat / 0x40 % 0x40).toUInt8 ::
          (0x80 + character.toNat % 0x40).toUInt8 :: rest) = some (character, 2) := by
  have lead : (0xE0 + character.toNat / 0x1000).toUInt8.toNat =
      0xE0 + character.toNat / 0x1000 :=
    toNat_toUInt8 (by omega)
  have code : (character.toNat / 0x1000 * 0x40 + character.toNat / 0x40 % 0x40) * 0x40 +
      character.toNat % 0x40 = character.toNat := by
    omega
  simp only [character?, lead]
  rw [if_neg (by omega), if_neg (by omega), if_neg (by omega), if_pos (by omega),
    Nat.add_sub_cancel_left, continuation?_cons (by omega), continuation?_cons (by omega), code,
    continuation?, Option.bind_some, scalar?_toNat above]
  rfl

theorem character?_four {character : Char} (above : 0x10000 ≤ character.toNat)
    (rest : List UInt8) :
    character? ((0xF0 + character.toNat / 0x40000).toUInt8 ::
        (0x80 + character.toNat / 0x1000 % 0x40).toUInt8 ::
          (0x80 + character.toNat / 0x40 % 0x40).toUInt8 ::
            (0x80 + character.toNat % 0x40).toUInt8 :: rest) = some (character, 3) := by
  have below : character.toNat < 0x110000 := by
    rcases character.valid with small | ⟨_, below⟩
    · exact Nat.lt_trans small (by decide)
    · exact below
  have lead : (0xF0 + character.toNat / 0x40000).toUInt8.toNat =
      0xF0 + character.toNat / 0x40000 :=
    toNat_toUInt8 (by omega)
  have code : ((character.toNat / 0x40000 * 0x40 + character.toNat / 0x1000 % 0x40) * 0x40 +
      character.toNat / 0x40 % 0x40) * 0x40 + character.toNat % 0x40 = character.toNat := by
    omega
  simp only [character?, lead]
  rw [if_neg (by omega), if_neg (by omega), if_neg (by omega), if_neg (by omega),
    if_pos (by omega), Nat.add_sub_cancel_left, continuation?_cons (by omega),
    continuation?_cons (by omega), continuation?_cons (by omega), code, continuation?,
    Option.bind_some, scalar?_toNat above]
  rfl

/-! ## Whole texts -/

/-- The octets of a character that has been read are passed over. -/
theorem decodeFrom_append (octets rest : List UInt8) :
    decodeFrom octets.length (octets ++ rest) = decodeFrom 0 rest := by
  induction octets with
  | nil => rfl
  | cons first others induction => exact induction

theorem decodeFrom_encodeCharacter (character : Char) (rest : List UInt8) :
    decodeFrom 0 (encodeCharacter character ++ rest) = some character :: decodeFrom 0 rest := by
  have read {lead : UInt8} (others : List UInt8)
      (head : character? (lead :: (others ++ rest)) = some (character, others.length)) :
      decodeFrom 0 (lead :: (others ++ rest)) = some character :: decodeFrom 0 rest := by
    simp only [decodeFrom, head]
    rw [decodeFrom_append]
  unfold encodeCharacter
  dsimp only
  split
  · next small => exact read [] (character?_one small _)
  · split
    · next below => exact read [_] (character?_two (by omega) below _)
    · split
      · next below => exact read [_, _] (character?_three (by omega) below _)
      · exact read [_, _, _] (character?_four (by omega) _)

theorem decode_encode (characters : List Char) :
    decode (encode characters) = characters.map some := by
  induction characters with
  | nil => rfl
  | cons first rest induction =>
      rw [encode, List.flatMap_cons, decode, decodeFrom_encodeCharacter, List.map_cons]
      exact congrArg (some first :: ·) induction

end ViewerLogin.Text.Utf8
