import ViewerLogin.Text.Split

/-!
# Pieces of texts

Where the pieces of a text end does not change when something is put to one of its ends, and the
first pair of separators is found behind a piece that has none.
-/

namespace ViewerLogin.Text

/-! ## Pieces at the ends -/

theorem split_ne_nil (separator : Char) (characters : List Char) :
    split separator characters ≠ [] := by
  cases characters with
  | nil => exact List.cons_ne_nil _ _
  | cons first rest =>
      rw [split]
      split
      · exact List.cons_ne_nil _ _
      · cases split separator rest with
        | nil => exact List.cons_ne_nil _ _
        | cons piece pieces => exact List.cons_ne_nil _ _

theorem split_cons {separator first : Char} (different : first ≠ separator) (rest : List Char) :
    ∃ piece pieces, split separator rest = piece :: pieces ∧
      split separator (first :: rest) = (first :: piece) :: pieces := by
  cases found : split separator rest with
  | nil => exact absurd found (split_ne_nil separator rest)
  | cons piece pieces =>
      refine ⟨piece, pieces, rfl, ?_⟩
      rw [split, if_neg different, found]
      rfl

theorem split_append_singleton {separator last : Char} (different : last ≠ separator)
    (characters : List Char) :
    ∃ pieces piece, split separator characters = pieces ++ [piece] ∧
      split separator (characters ++ [last]) = pieces ++ [piece ++ [last]] := by
  induction characters with
  | nil =>
      refine ⟨[], [], rfl, ?_⟩
      rw [List.nil_append, split, if_neg different]
      rfl
  | cons first rest induction =>
      rcases induction with ⟨pieces, piece, before, after⟩
      by_cases atSeparator : first = separator
      · refine ⟨[] :: pieces, piece, ?_, ?_⟩
        · rw [split, if_pos atSeparator, before, List.cons_append]
        · rw [List.cons_append, split, if_pos atSeparator, after, List.cons_append]
      · rw [List.cons_append, split, split, if_neg atSeparator, if_neg atSeparator, before, after]
        cases pieces with
        | nil => exact ⟨[], first :: piece, rfl, rfl⟩
        | cons head others => exact ⟨(first :: head) :: others, piece, rfl, rfl⟩

theorem mem_join {separator : List Char} {pieces : List (List Char)} {character : Char}
    (member : character ∈ join separator pieces) :
    character ∈ separator ∨ ∃ piece ∈ pieces, character ∈ piece := by
  fun_induction join separator pieces with
  | case1 => contradiction
  | case2 piece => exact .inr ⟨piece, List.mem_singleton.mpr rfl, member⟩
  | case3 piece pieces _ induction =>
      rcases List.mem_append.mp member with inFront | inRest
      · rcases List.mem_append.mp inFront with inPiece | inSeparator
        · exact .inr ⟨piece, List.mem_cons_self, inPiece⟩
        · exact .inl inSeparator
      · rcases induction inRest with inSeparator | ⟨other, inPieces, inOther⟩
        · exact .inl inSeparator
        · exact .inr ⟨other, List.mem_cons_of_mem _ inPieces, inOther⟩

theorem exists_mem_split {separator character : Char} {characters : List Char}
    (member : character ∈ characters) (different : character ≠ separator) :
    ∃ piece ∈ split separator characters, character ∈ piece := by
  induction characters with
  | nil => exact absurd member List.not_mem_nil
  | cons first rest induction =>
      by_cases atSeparator : first = separator
      · have inRest : character ∈ rest := by
          rcases List.mem_cons.mp member with equal | inRest
          · exact absurd (equal.trans atSeparator) different
          · exact inRest
        rcases induction inRest with ⟨piece, inPieces, inPiece⟩
        rw [split, if_pos atSeparator]
        exact ⟨piece, List.mem_cons_of_mem _ inPieces, inPiece⟩
      · rw [split, if_neg atSeparator]
        cases pieces : split separator rest with
        | nil =>
            rcases List.mem_cons.mp member with equal | inRest
            · exact ⟨[first], List.mem_singleton.mpr rfl, List.mem_singleton.mpr equal⟩
            · rcases induction inRest with ⟨piece, inPieces, _⟩
              rw [pieces] at inPieces
              exact absurd inPieces List.not_mem_nil
        | cons head others =>
            rcases List.mem_cons.mp member with equal | inRest
            · exact ⟨first :: head, List.mem_cons_self, equal ▸ List.mem_cons_self⟩
            · rcases induction inRest with ⟨piece, inPieces, inPiece⟩
              rw [pieces] at inPieces
              rcases List.mem_cons.mp inPieces with atHead | inOthers
              · exact ⟨first :: head, List.mem_cons_self,
                  List.mem_cons_of_mem _ (atHead ▸ inPiece)⟩
              · exact ⟨piece, List.mem_cons_of_mem _ inOthers, inPiece⟩

/-! ## Pairs of separators -/

section

variable {first second : Char} {piece : List Char}

/-- A character that does not begin a pair belongs to the first piece of what follows. -/
theorem splitAtPair_cons {head : Char} (different : head ≠ first) {rest : List Char}
    {pieces : List (List Char)} (split : splitAtPair first second rest = piece :: pieces) :
    splitAtPair first second (head :: rest) = (head :: piece) :: pieces := by
  cases rest with
  | nil =>
      cases split
      rfl
  | cons next others =>
      rw [splitAtPair, if_neg fun both => different both.1, split]
      rfl

theorem splitAtPair_prepend (clear : first ∉ piece) {rest start : List Char}
    {pieces : List (List Char)} (split : splitAtPair first second rest = start :: pieces) :
    splitAtPair first second (piece ++ rest) = (piece ++ start) :: pieces := by
  induction piece with
  | nil => exact split
  | cons head others induction =>
      have different : head ≠ first := fun same => clear (same ▸ List.mem_cons_self)
      exact splitAtPair_cons different
        (induction fun member => clear (List.mem_cons_of_mem _ member))

theorem splitAtPair_append (clear : first ∉ piece) (rest : List Char) :
    splitAtPair first second (piece ++ first :: second :: rest) =
      piece :: splitAtPair first second rest := by
  have cut : splitAtPair first second (first :: second :: rest) =
      [] :: splitAtPair first second rest := by
    rw [splitAtPair, if_pos ⟨rfl, rfl⟩]
  have whole := splitAtPair_prepend clear cut
  rwa [List.append_nil] at whole

theorem splitAtPair_last (clear : first ∉ piece) :
    splitAtPair first second (piece ++ [first]) = [piece ++ [first]] :=
  splitAtPair_prepend clear rfl

theorem cutAtPair?_append (clear : first ∉ piece) (rest : List Char) :
    cutAtPair? first second (piece ++ rest) =
      (cutAtPair? first second rest).map fun (before, after) => (piece ++ before, after) := by
  induction piece with
  | nil => simp
  | cons head others induction =>
      have different : head ≠ first := fun equal => clear (equal ▸ List.mem_cons_self)
      have step := induction fun member => clear (List.mem_cons_of_mem _ member)
      rw [List.cons_append]
      cases following : others ++ rest with
      | nil =>
          rw [List.append_eq_nil_iff] at following
          rw [following.2]
          rfl
      | cons next remaining =>
          rw [cutAtPair?, if_neg fun both => different both.1, ← following, step, Option.map_map]
          rfl

theorem cutAtPair?_of_not_mem (clear : first ∉ piece) (rest : List Char) :
    cutAtPair? first second (piece ++ first :: second :: rest) = some (piece, rest) := by
  rw [cutAtPair?_append clear, cutAtPair?, if_pos ⟨rfl, rfl⟩]
  simp

end

/-! ## Doubled separators -/

theorem cutAtPair?_single {separator next : Char} (different : next ≠ separator)
    (rest : List Char) :
    cutAtPair? separator separator (separator :: next :: rest) =
      (cutAtPair? separator separator (next :: rest)).map fun (before, after) =>
        (separator :: before, after) := by
  rw [cutAtPair?, if_neg fun both => different both.2]

theorem cutAtPair?_double (separator : Char) (rest : List Char) :
    cutAtPair? separator separator (separator :: separator :: rest) = some ([], rest) := by
  rw [cutAtPair?, if_pos ⟨rfl, rfl⟩]

theorem cutAtPair?_join {separator : Char} {pieces : List (List Char)}
    (clear : ∀ piece ∈ pieces, separator ∉ piece ∧ piece ≠ []) :
    cutAtPair? separator separator (join [separator] pieces) = none ∧
      ∀ rest, cutAtPair? separator separator
        (join [separator] pieces ++ separator :: separator :: rest) =
          some (join [separator] pieces, rest) := by
  induction pieces with
  | nil => exact ⟨rfl, cutAtPair?_double separator⟩
  | cons piece pieces induction =>
      have pieceClear := (clear piece List.mem_cons_self).1
      cases pieces with
      | nil =>
          refine ⟨?_, fun rest => ?_⟩
          · rw [join, ← List.append_nil piece, cutAtPair?_append pieceClear]
            rfl
          · rw [join, cutAtPair?_append pieceClear, cutAtPair?_double]
            simp
      | cons next others =>
          have rest := induction fun other member => clear other (List.mem_cons_of_mem _ member)
          have nextClear := clear next (List.mem_cons_of_mem _ List.mem_cons_self)
          -- No piece is empty, so what follows a separator does not begin with another one.
          obtain ⟨first, remaining, begins⟩ :
              ∃ first remaining, join [separator] (next :: others) = first :: remaining ∧
                first ≠ separator := by
            cases next with
            | nil => exact absurd rfl nextClear.2
            | cons first remaining =>
                have different : first ≠ separator := fun equal =>
                  nextClear.1 (equal ▸ List.mem_cons_self)
                cases others with
                | nil => exact ⟨first, remaining, rfl, different⟩
                | cons following others => exact ⟨first, _, rfl, different⟩
          rw [join, List.append_assoc, List.singleton_append]
          · refine ⟨?_, fun after => ?_⟩
            · rw [cutAtPair?_append pieceClear, begins.1, cutAtPair?_single begins.2, ← begins.1,
                rest.1]
              rfl
            · rw [List.append_assoc, List.cons_append, cutAtPair?_append pieceClear, begins.1,
                List.cons_append, cutAtPair?_single begins.2, ← List.cons_append, ← begins.1,
                rest.2 after]
              rfl
          · exact fun equal => List.cons_ne_nil _ _ equal

end ViewerLogin.Text
