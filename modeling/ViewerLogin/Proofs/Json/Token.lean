import ViewerLogin.Proofs.Json.Lexing
import ViewerLogin.Proofs.Json.Numeral
import ViewerLogin.Proofs.Json.Text
import ViewerLogin.Proofs.Json.Writable

/-!
# Written values as tokens

A written value scans as its tokens, whatever follows it, as long as that cannot belong to a
number at its end.
-/

namespace ViewerLogin

open Text (Symbol)
open Numeral (Stops)

namespace Json

/-! ## The tokens of a value -/

mutual

def tokens : Json → List Token
  | .null => [.null]
  | .truth value => [.truth value]
  | .number value => [.numeral (.ofNumber value)]
  | .text value => [.text (Piece.ofText value)]
  | .list items => .openList :: itemTokens items ++ [.closeList]
  | .map members => .openMap :: memberTokens members ++ [.closeMap]

def itemTokens : List Json → List Token
  | [] => []
  | [item] => tokens item
  | item :: rest => tokens item ++ .comma :: itemTokens rest

def memberTokens : List (String × Json) → List Token
  | [] => []
  | [(key, value)] => .text (Piece.ofText key) :: .colon :: tokens value
  | (key, value) :: rest =>
      .text (Piece.ofText key) :: .colon :: tokens value ++ .comma :: memberTokens rest

end

end Json

namespace Token

/-! ## Pieces of text -/

def Spells (characters : List Char) (tokens : List Token) : Prop :=
  ∀ rest, Stops rest →
    scan? (characters.map some ++ rest) = (scan? rest).map (tokens ++ ·)

namespace Spells

theorem nil : Spells [] [] := by
  intro rest _
  simp

theorem cons {character : Char} {token : Token} {characters : List Char} {tokens : List Token}
    (visible : isSpace (some character) = false)
    (taken : ∀ rest, next? (some character :: rest) = some (token, rest))
    (others : Spells characters tokens) :
    Spells (character :: characters) (token :: tokens) := by
  intro rest stops
  rw [List.map_cons, List.cons_append, scan?_of_next? visible (taken _), others rest stops,
    Option.map_map]
  rfl

theorem quote (text : String) {characters : List Char} {tokens : List Token}
    (others : Spells characters tokens) :
    Spells (Json.quote text ++ characters) (.text (Piece.ofText text) :: tokens) := by
  intro rest stops
  have spelled : Spelling ((Json.quote text).map some) (.text (Piece.ofText text)) := by
    have content := Spelling.text (Piece.spellings_escape text.toList)
    simpa [Json.quote, Piece.ofText] using content
  rw [List.map_append, List.append_assoc, scan?_of_spelling spelled trivial, others rest stops,
    Option.map_map]
  rfl

theorem append {characters : List Char} {tokens : List Token} (first : Spells characters tokens)
    {delimiter : Char} {characters' : List Char} {tokens' : List Token}
    (delimits : ∀ rest, Stops (some delimiter :: rest))
    (others : Spells (delimiter :: characters') tokens') :
    Spells (characters ++ delimiter :: characters') (tokens ++ tokens') := by
  intro rest stops
  have delimited : Stops ((delimiter :: characters').map some ++ rest) := delimits _
  rw [List.map_append, List.append_assoc, first _ delimited, others rest stops, Option.map_map]
  simp only [Function.comp_def, List.append_assoc]

theorem integer (value : Int) : Spells (Decimal.integer value) [.numeral (.ofInt value)] :=
  fun _ stops => scan?_of_spelling (.numeral (Numeral.spelling_integer value)) (stops.ends _)

end Spells

theorem stops_comma (rest : List Symbol) : Stops (some ',' :: rest) := by
  rintro _ ⟨⟩
  decide

theorem stops_closeList (rest : List Symbol) : Stops (some ']' :: rest) := by
  rintro _ ⟨⟩
  decide

theorem stops_closeMap (rest : List Symbol) : Stops (some '\x7d' :: rest) := by
  rintro _ ⟨⟩
  decide

/-! ## Values -/

theorem spells_items {items : List Json} (each : ∀ item ∈ items, Spells item.write item.tokens) :
    Spells (Json.writeItems items ++ [']']) (Json.itemTokens items ++ [.closeList]) := by
  have closes : Spells [']'] [.closeList] := Spells.nil.cons rfl fun _ => rfl
  induction items with
  | nil => exact closes
  | cons first rest induction =>
      have firstSpells := each first List.mem_cons_self
      have restSpells := induction fun item member => each item (List.mem_cons_of_mem _ member)
      cases rest with
      | nil => exact firstSpells.append stops_closeList closes
      | cons second others =>
          have comma : Spells (',' :: (Json.writeItems (second :: others) ++ [']']))
              (.comma :: (Json.itemTokens (second :: others) ++ [.closeList])) :=
            restSpells.cons rfl fun _ => rfl
          have separated := firstSpells.append stops_comma comma
          rw [← List.cons_append, ← List.append_assoc, ← List.cons_append,
            ← List.append_assoc] at separated
          exact separated

theorem spells_members {members : Json.Members}
    (each : ∀ member ∈ members, Spells member.2.write member.2.tokens) :
    Spells (Json.writeMembers members ++ ['\x7d'])
      (Json.memberTokens members ++ [.closeMap]) := by
  have closes : Spells ['\x7d'] [.closeMap] := Spells.nil.cons rfl fun _ => rfl
  induction members with
  | nil => exact closes
  | cons first rest induction =>
      rcases first with ⟨key, value⟩
      have valueSpells := each (key, value) List.mem_cons_self
      have restSpells := induction fun item member => each item (List.mem_cons_of_mem _ member)
      cases rest with
      | nil =>
          have last := valueSpells.append stops_closeMap closes
          have colon : Spells (':' :: (value.write ++ ['\x7d']))
              (.colon :: (value.tokens ++ [.closeMap])) :=
            last.cons rfl fun _ => rfl
          have named := Spells.quote key colon
          rw [Json.writeMembers, Json.memberTokens]
          simpa using named
      | cons second others =>
          have comma : Spells (',' :: (Json.writeMembers (second :: others) ++ ['\x7d']))
              (.comma :: (Json.memberTokens (second :: others) ++ [.closeMap])) :=
            restSpells.cons rfl fun _ => rfl
          have separated := valueSpells.append stops_comma comma
          have colon : Spells
              (':' :: (value.write ++ ',' :: (Json.writeMembers (second :: others) ++ ['\x7d'])))
              (.colon :: (value.tokens ++
                .comma :: (Json.memberTokens (second :: others) ++ [.closeMap]))) :=
            separated.cons rfl fun _ => rfl
          have named := Spells.quote key colon
          rw [Json.writeMembers, Json.memberTokens]
          simpa using named
          all_goals exact List.cons_ne_nil _ _

theorem spells_write {depth : Nat} {value : Json} (writable : Json.Writable depth value) :
    Spells value.write value.tokens := by
  induction writable with
  | null _ =>
      intro rest _
      exact scan?_of_next? rfl rfl
  | truth _ value =>
      intro rest _
      cases value with
      | true => exact scan?_of_next? rfl rfl
      | false => exact scan?_of_next? rfl rfl
  | @integer _ value _ _ =>
      rw [Json.tokens, Numeral.ofNumber_integer]
      exact Spells.integer value
  | text _ value =>
      have quoted := Spells.quote value Spells.nil
      rw [List.append_nil] at quoted
      exact quoted
  | list _ each => exact (spells_items each).cons rfl fun _ => rfl
  | map _ _ each => exact (spells_members each).cons rfl fun _ => rfl

theorem scan?_write {depth : Nat} {value : Json} (writable : Json.Writable depth value) :
    scan? (value.write.map some) = some value.tokens := by
  have scanned := spells_write writable [] nofun
  rw [List.append_nil, scan?, Option.map_some, List.append_nil] at scanned
  exact scanned

end Token

end ViewerLogin
