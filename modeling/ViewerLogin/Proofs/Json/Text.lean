import ViewerLogin.Json.Printer
import ViewerLogin.Proofs.Json.Meaning
import ViewerLogin.Proofs.Json.PieceSpelling

/-!
# Strings read back

A string is written with as few escapes as possible. What was written for a text scans as one
piece for each character, and these pieces have that text.
-/

namespace ViewerLogin.Piece

open Text (Symbol)

def ofCharacter (character : Char) : Piece :=
  match character with
  | '\u0008' | '\u000c' | '\n' | '\r' | '\t' => .symbol (some character)
  | _ =>
      if character.toNat < 0x20 then .unit character.toNat else .symbol (some character)

def ofText (text : String) : List Piece := text.toList.map ofCharacter

/-! ## Spelling -/

theorem spelling_unit {value : Nat} (small : value < 0x10000) :
    Spelling (('\\' :: 'u' :: Text.Hex.write 4 value).map some) (.unit value) := by
  have reads := Text.Hex.read?_write 4 value small
  have size := Text.Hex.length_write 4 value
  match written : Text.Hex.write 4 value, size with
  | [first, second, third, fourth], _ =>
      rw [written] at reads
      exact .unit reads

theorem spelling_escape (character : Char) :
    Spelling ((Json.escape character).map some) (ofCharacter character) := by
  unfold Json.escape
  split
  case h_8 noQuote noBackslash noBackspace noFormFeed noNewline noReturn noTab =>
    have piece : ofCharacter character =
        if character.toNat < 0x20 then .unit character.toNat else .symbol (some character) := by
      unfold ofCharacter
      split <;> first | contradiction | rfl
    rw [piece]
    split
    · next small => exact spelling_unit (by omega)
    · next large => exact .plain (decide_eq_false large) noQuote noBackslash
  all_goals exact .short rfl

theorem spellings_escape (characters : List Char) :
    Spellings ((characters.flatMap Json.escape).map some) (characters.map ofCharacter) := by
  induction characters with
  | nil => exact .nil
  | cons first others induction =>
      rw [List.flatMap_cons, List.map_append]
      exact .cons (spelling_escape first) induction

/-! ## The text -/

theorem characters?_low {value : Nat} (low : value < 0xD800) (rest : List Piece) :
    characters? (.unit value :: rest) = (characters? rest).map (Char.ofNat value :: ·) := by
  apply characters?_unit
  · simp only [isLeading, Bool.and_eq_false_iff, decide_eq_false_iff_not]
    omega
  · simp only [isTrailing, Bool.and_eq_false_iff, decide_eq_false_iff_not]
    omega

theorem characters?_ofCharacter (character : Char) (rest : List Piece) :
    characters? (ofCharacter character :: rest) = (characters? rest).map (character :: ·) := by
  unfold ofCharacter
  split
  all_goals try rfl
  split
  · rw [characters?_low (by omega), Char.ofNat_toNat]
  · rfl

theorem text?_ofText (text : String) : text? (ofText text) = some text := by
  have reads (characters : List Char) :
      characters? (characters.map ofCharacter) = some characters := by
    induction characters with
    | nil => rfl
    | cons first others induction =>
        rw [List.map_cons, characters?_ofCharacter, induction]
        rfl
  rw [text?, ofText, reads, Option.map_some, String.ofList_toList]

end ViewerLogin.Piece
