import ViewerLogin.Proofs.Json.NumeralSpelling
import ViewerLogin.Proofs.Json.PieceSpelling

/-!
# Texts as tokens

A text is lexed when it is cut into spellings of tokens with blank space between them, where no
numeral is cut short. There is one way to do so at most, and it is what the scanner finds.
-/

namespace ViewerLogin

open Text (Symbol)

theorem Numeral.Spelling.begins {characters : List Char} {numeral : Numeral}
    (spelled : Numeral.Spelling characters numeral) :
    ∃ first others, characters = first :: others ∧ (first.isDigit = true ∨ first = '-') := by
  cases spelled with
  | minus => exact ⟨_, _, rfl, .inr rfl⟩
  | plain spelled =>
      cases spelled with
      | @parts whole _ _ _ _ isWhole =>
          cases whole with
          | nil => exact absurd rfl isWhole.nonempty
          | cons first others =>
              exact ⟨_, _, rfl, .inl (isWhole.digits first List.mem_cons_self)⟩

namespace Token

/-! ## One token -/

inductive Spelling : List Symbol → Token → Prop where
  | openList : Spelling [some '['] .openList
  | closeList : Spelling [some ']'] .closeList
  | openMap : Spelling [some '\x7b'] .openMap
  | closeMap : Spelling [some '\x7d'] .closeMap
  | comma : Spelling [some ','] .comma
  | colon : Spelling [some ':'] .colon
  | null : Spelling [some 'n', some 'u', some 'l', some 'l'] .null
  | yes : Spelling [some 't', some 'r', some 'u', some 'e'] (.truth true)
  | no : Spelling [some 'f', some 'a', some 'l', some 's', some 'e'] (.truth false)
  | numeral {characters : List Char} {value : Numeral}
      (spelled : Numeral.Spelling characters value) :
      Spelling (characters.map some) (.numeral value)
  | text {content : List Symbol} {pieces : List Piece}
      (spelled : Piece.Spellings content pieces) :
      Spelling (some '"' :: (content ++ [some '"'])) (.text pieces)

def Ends : Token → List Symbol → Prop
  | .numeral value, rest => value.Ends rest
  | _, _ => True

theorem next?_numeral {first : Char} (begins : first.isDigit = true ∨ first = '-')
    (rest : List Symbol) :
    next? (some first :: rest) =
      (Numeral.take? (some first :: rest)).map
        fun (spelled, after) => (.numeral spelled, after) := by
  unfold next?
  split
  case h_11 => rfl
  all_goals
    next equal =>
      injection equal with same
      injection same with same
      subst same
      exact absurd begins (by decide)

theorem next?_eq_some_iff {symbols rest : List Symbol} {token : Token} :
    next? symbols = some (token, rest) ↔
      ∃ front, symbols = front ++ rest ∧ Spelling front token ∧ token.Ends rest := by
  constructor
  · intro taken
    unfold next? at taken
    split at taken
    case h_10 =>
      rcases Option.map_eq_some_iff.mp taken with ⟨⟨pieces, after⟩, found, same⟩
      cases same
      rcases Piece.scan?_eq_some_iff.mp found with ⟨content, spelled, rfl⟩
      exact ⟨_, by simp, .text spelled, trivial⟩
    case h_11 =>
      rcases Option.map_eq_some_iff.mp taken with ⟨⟨value, after⟩, found, same⟩
      cases same
      rcases Numeral.take?_eq_some_iff.mp found with ⟨characters, split, spelled, ends⟩
      exact ⟨_, split, .numeral spelled, ends⟩
    all_goals
      cases taken
      exact ⟨_, rfl, by constructor, trivial⟩
  · rintro ⟨front, rfl, spelled, ends⟩
    cases spelled with
    | @text content _ spelled =>
        have scanned := Piece.scan?_of_spellings spelled rest
        rw [List.cons_append, List.append_assoc, List.singleton_append, next?, scanned]
        rfl
    | @numeral characters _ spelled =>
        have taken := Numeral.take?_eq_some_iff.mpr ⟨characters, rfl, spelled, ends⟩
        rcases spelled.begins with ⟨first, others, rfl, begins⟩
        rw [List.map_cons, List.cons_append] at taken ⊢
        rw [next?_numeral begins, taken]
        rfl
    | _ => rfl

/-- Every token begins with something that is not blank. -/
theorem Spelling.visible {front : List Symbol} {token : Token} (spelled : Spelling front token) :
    ∃ first others, front = first :: others ∧ isSpace first = false := by
  cases spelled with
  | numeral spelled =>
      rcases spelled.begins with ⟨first, others, rfl, begins⟩
      refine ⟨_, _, rfl, ?_⟩
      simp only [isSpace, Bool.or_eq_false_iff, decide_eq_false_iff_not]
      refine ⟨⟨⟨?_, ?_⟩, ?_⟩, ?_⟩ <;> rintro rfl <;> exact absurd begins (by decide)
  | _ => exact ⟨_, _, rfl, rfl⟩

/-! ## All tokens -/

theorem scan?_of_next? {first : Symbol} {rest after : List Symbol} {token : Token}
    (visible : isSpace first = false) (taken : next? (first :: rest) = some (token, after)) :
    scan? (first :: rest) = (scan? after).map (token :: ·) := by
  rw [scan?, if_neg (by rw [visible]; exact Bool.false_ne_true)]
  split
  · next nothing =>
      rw [taken] at nothing
      contradiction
  · next found =>
      rw [taken] at found
      injection found with found
      rcases Prod.mk.inj found with ⟨rfl, rfl⟩
      rfl

theorem scan?_of_spelling {front rest : List Symbol} {token : Token}
    (spelled : Spelling front token) (ends : token.Ends rest) :
    scan? (front ++ rest) = (scan? rest).map (token :: ·) := by
  have taken := next?_eq_some_iff.mpr ⟨front, rfl, spelled, ends⟩
  rcases spelled.visible with ⟨first, others, rfl, visible⟩
  exact scan?_of_next? visible taken

inductive Lexes : List Symbol → List Token → Prop where
  | done : Lexes [] []
  | blank {symbol : Symbol} {symbols : List Symbol} {tokens : List Token}
      (isBlank : isSpace symbol = true) (others : Lexes symbols tokens) :
      Lexes (symbol :: symbols) tokens
  | token {front rest : List Symbol} {token : Token} {tokens : List Token}
      (spelled : Spelling front token) (ends : token.Ends rest) (others : Lexes rest tokens) :
      Lexes (front ++ rest) (token :: tokens)

theorem scan?_eq_some_iff {symbols : List Symbol} {tokens : List Token} :
    scan? symbols = some tokens ↔ Lexes symbols tokens := by
  constructor
  · intro scanned
    fun_induction scan? symbols generalizing tokens with
    | case1 =>
        cases scanned
        exact .done
    | case2 symbol rest isBlank induction => exact .blank isBlank (induction scanned)
    | case3 => contradiction
    | case4 symbol rest _ token after taken _ induction =>
        rcases Option.map_eq_some_iff.mp scanned with ⟨others, found, rfl⟩
        rcases next?_eq_some_iff.mp taken with ⟨front, split, spelled, ends⟩
        rw [split]
        exact .token spelled ends (induction found)
  · intro lexed
    induction lexed with
    | done => rw [scan?]
    | blank isBlank _ induction => rw [scan?, if_pos isBlank, induction]
    | token spelled ends _ induction =>
        rw [scan?_of_spelling spelled ends, induction]
        rfl

end Token

end ViewerLogin
