import ViewerLogin.Proofs.Wire.Tidy

/-!
# Texts with something around them

Blanks around a text are what trimming takes away, and nothing else. A text that begins and ends
with something visible is left as it is.
-/

namespace ViewerLogin.Text

/-! ## Both ends -/

theorem dropEndWhile_append_of_neg {test : Char → Bool} {last : Char} (kept : test last = false)
    (characters : List Char) :
    dropEndWhile test (characters ++ [last]) = characters ++ [last] := by
  rw [dropEndWhile_eq_rdropWhile, List.rdropWhile_concat, if_neg (Bool.eq_false_iff.mp kept)]

theorem dropEndWhile_append_of_pos {test : Char → Bool} {last : Char} (dropped : test last = true)
    (characters : List Char) :
    dropEndWhile test (characters ++ [last]) = dropEndWhile test characters := by
  rw [dropEndWhile_eq_rdropWhile, List.rdropWhile_concat, if_pos dropped]
  rfl

theorem dropEndWhile_of_forall {test : Char → Bool} {characters : List Char}
    (kept : ∀ each ∈ characters, test each = false) : dropEndWhile test characters = characters :=
  List.rdropWhile_eq_self_iff.mpr fun nonempty =>
    Bool.eq_false_iff.mp (kept _ (List.getLast_mem nonempty))

theorem dropWhile_of_head? {test : Char → Bool} {characters : List Char}
    (kept : ∀ first ∈ characters.head?, test first = false) :
    characters.dropWhile test = characters := by
  cases characters with
  | nil => rfl
  | cons first rest => exact List.dropWhile_cons_of_neg (Bool.eq_false_iff.mp (kept first rfl))

theorem dropEndWhile_append_of_forall {test : Char → Bool} {after : List Char}
    (dropped : ∀ each ∈ after, test each = true) (characters : List Char) :
    dropEndWhile test (characters ++ after) = dropEndWhile test characters := by
  rw [dropEndWhile, dropEndWhile, List.reverse_append,
    List.dropWhile_append_of_pos fun each member => dropped each (List.mem_reverse.mp member)]

/-! ## Blanks -/

/-- Blanks around a text do not show when it is trimmed. -/
theorem trimCharacters_of_blanks_around {before after : List Char}
    (beforeBlank : ∀ each ∈ before, isBlank each = true)
    (afterBlank : ∀ each ∈ after, isBlank each = true) (core : List Char) :
    trimCharacters (before ++ core ++ after) = trimCharacters core := by
  rw [trimCharacters, List.append_assoc, List.dropWhile_append_of_pos beforeBlank,
    List.dropWhile_append]
  split
  · next nothing =>
      rw [List.dropWhile_eq_nil_iff.mpr afterBlank, trimCharacters, List.isEmpty_iff.mp nothing]
  · rw [dropEndWhile_append_of_forall afterBlank, trimCharacters]

theorem trimCharacters_of_isBlank {first : Char} (blank : isBlank first = true)
    (rest : List Char) : trimCharacters (first :: rest) = trimCharacters rest := by
  rw [trimCharacters, List.dropWhile_cons_of_pos blank, trimCharacters]

theorem trimCharacters_append_of_isBlank {last : Char} (blank : isBlank last = true)
    (characters : List Char) :
    trimCharacters (characters ++ [last]) = trimCharacters characters :=
  trimCharacters_of_blanks_around (List.forall_mem_nil _) (List.forall_mem_singleton.mpr blank)
    characters

theorem trimCharacters_enclosed {first last : Char} (firstVisible : isBlank first = false)
    (lastVisible : isBlank last = false) (middle : List Char) :
    trimCharacters (first :: middle ++ [last]) = first :: middle ++ [last] := by
  rw [List.cons_append, trimCharacters_cons firstVisible,
    dropEndWhile_append_of_neg lastVisible]

theorem trimCharacters_between {before middle after : List Char}
    (beforeBlank : ∀ each ∈ before, isBlank each = true)
    (visible : ∀ each ∈ middle, isBlank each = false)
    (afterBlank : ∀ each ∈ after, isBlank each = true) :
    trimCharacters (before ++ middle ++ after) = middle := by
  have kept : middle.dropWhile isBlank = middle :=
    dropWhile_of_head? fun first member => visible first (List.mem_of_mem_head? member)
  rw [trimCharacters_of_blanks_around beforeBlank afterBlank, trimCharacters, kept,
    dropEndWhile_of_forall visible]

/-- Trimming takes away blanks at the two ends. -/
theorem exists_blanks_around (characters : List Char) :
    ∃ before after, (∀ each ∈ before, isBlank each = true) ∧
      (∀ each ∈ after, isBlank each = true) ∧
      characters = before ++ trimCharacters characters ++ after := by
  refine ⟨characters.takeWhile isBlank, (characters.dropWhile isBlank).rtakeWhile isBlank,
    fun each => List.mem_takeWhile_imp, fun each => List.mem_rtakeWhile_imp, ?_⟩
  rw [trimCharacters, dropEndWhile_eq_rdropWhile, List.append_assoc,
    List.rdropWhile_append_rtakeWhile, List.takeWhile_append_dropWhile]

end ViewerLogin.Text
