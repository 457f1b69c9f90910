import ViewerLogin.Json.Token

/-!
# Spellings of strings

Most pieces of a string can be spelled in more than one way. The scanner takes a string to be
the pieces that its symbols spell, up to the first quotation mark that is not escaped, and it
takes nothing else for a string.
-/

namespace ViewerLogin.Piece

open Text (Symbol)

inductive Spelling : List Symbol → Piece → Prop where
  | plain {character : Char} (visible : isControl character = false)
      (notQuote : character ≠ '"') (notBackslash : character ≠ '\\') :
      Spelling [some character] (.symbol (some character))
  | stray : Spelling [none] (.symbol none)
  | short {letter character : Char} (known : escaped? letter = some character) :
      Spelling [some '\\', some letter] (.symbol (some character))
  | unit {first second third fourth : Char} {value : Nat}
      (digits : Text.Hex.read? [first, second, third, fourth] = some value) :
      Spelling [some '\\', some 'u', some first, some second, some third, some fourth]
        (.unit value)

inductive Spellings : List Symbol → List Piece → Prop where
  | nil : Spellings [] []
  | cons {front symbols : List Symbol} {piece : Piece} {pieces : List Piece}
      (first : Spelling front piece) (others : Spellings symbols pieces) :
      Spellings (front ++ symbols) (piece :: pieces)

/-! ## Spellings are scanned -/

theorem scan?_of_spelling {front : List Symbol} {piece : Piece} (spelled : Spelling front piece)
    (rest : List Symbol) :
    scan? (front ++ rest) = (scan? rest).map fun (pieces, after) => (piece :: pieces, after) := by
  cases spelled with
  | @plain character visible notQuote notBackslash =>
      have plain : ¬(isControl character = true ∨ character = '\\') :=
        not_or.mpr ⟨by rw [visible]; exact Bool.false_ne_true, notBackslash⟩
      rw [List.cons_append, List.nil_append, scan?, if_neg plain]
      · exact notQuote
      · exact fun _ _ _ _ _ _ same => notBackslash same
      · exact fun _ _ _ same => notBackslash same
  | stray => rw [List.cons_append, List.nil_append, scan?]
  | @short letter character known =>
      have notUnit : letter ≠ 'u' := by
        rintro rfl
        contradiction
      rw [List.cons_append, List.cons_append, List.nil_append, scan?, known, Option.bind_some]
      exact fun _ _ _ _ _ _ => notUnit
  | unit digits =>
      simp only [List.cons_append, List.nil_append, scan?, digits, Option.bind_some]

theorem scan?_of_spellings {symbols : List Symbol} {pieces : List Piece}
    (spelled : Spellings symbols pieces) (rest : List Symbol) :
    scan? (symbols ++ some '"' :: rest) = some (pieces, rest) := by
  induction spelled with
  | nil => rfl
  | cons first _ induction =>
      rw [List.append_assoc, scan?_of_spelling first, induction]
      rfl

/-! ## What is scanned is a spelling -/

def Closes (symbols : List Symbol) (pieces : List Piece) (after : List Symbol) : Prop :=
  ∃ content, Spellings content pieces ∧ symbols = content ++ some '"' :: after

theorem closes_of_map {front rest after : List Symbol} {piece : Piece} {pieces : List Piece}
    (first : Spelling front piece)
    (later : ∀ {pieces : List Piece} {after : List Symbol},
      scan? rest = some (pieces, after) → Closes rest pieces after)
    (scanned : ((scan? rest).map fun (pieces, after) => (piece :: pieces, after)) =
      some (pieces, after)) :
    Closes (front ++ rest) pieces after := by
  rcases Option.map_eq_some_iff.mp scanned with ⟨⟨others, remaining⟩, found, same⟩
  cases same
  rcases later found with ⟨content, spelled, split⟩
  exact ⟨front ++ content, .cons first spelled, by rw [split, List.append_assoc]⟩

theorem closes_of_scan? {symbols after : List Symbol} {pieces : List Piece}
    (scanned : scan? symbols = some (pieces, after)) : Closes symbols pieces after := by
  -- Each case of the scanner is one way to spell a piece.
  fun_induction scan? symbols generalizing pieces after with
  | case1 => contradiction
  | case2 rest =>
      cases scanned
      exact ⟨[], .nil, rfl⟩
  | case3 first second third fourth rest induction =>
      rcases Option.bind_eq_some_iff.mp scanned with ⟨value, digits, scanned⟩
      exact closes_of_map (.unit digits) induction scanned
  | case4 letter rest _ induction =>
      rcases Option.bind_eq_some_iff.mp scanned with ⟨character, known, scanned⟩
      exact closes_of_map (.short known) induction scanned
  | case5 => contradiction
  | case6 character rest notQuote _ _ plain induction =>
      rcases not_or.mp plain with ⟨visible, notBackslash⟩
      exact closes_of_map (.plain (Bool.eq_false_iff.mpr visible) notQuote notBackslash) induction
        scanned
  | case7 rest induction => exact closes_of_map .stray induction scanned

theorem scan?_eq_some_iff {symbols after : List Symbol} {pieces : List Piece} :
    scan? symbols = some (pieces, after) ↔ Closes symbols pieces after := by
  constructor
  · exact closes_of_scan?
  · rintro ⟨content, spelled, rfl⟩
    exact scan?_of_spellings spelled after

end ViewerLogin.Piece
