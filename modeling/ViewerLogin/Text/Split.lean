/-!
# Splitting text

Lists inside texts are written with separators. A separator is one character, or two
that stand next to each other; a text without any is a single piece.
-/

namespace ViewerLogin.Text

/-! ## Pieces between separators -/

def extendFirst (character : Char) : List (List Char) → List (List Char)
  | [] => [[character]]
  | piece :: pieces => (character :: piece) :: pieces

def split (separator : Char) : List Char → List (List Char)
  | [] => [[]]
  | character :: rest =>
      if character = separator then [] :: split separator rest
      else extendFirst character (split separator rest)

example : split ',' "r1,,r0".toList = ["r1".toList, [], "r0".toList] := by decide

example : split ',' [] = [[]] := rfl

def splitAtPair (first second : Char) : List Char → List (List Char)
  | [] => [[]]
  | [character] => [[character]]
  | character :: next :: rest =>
      if character = first ∧ next = second then [] :: splitAtPair first second rest
      else extendFirst character (splitAtPair first second (next :: rest))

example : splitAtPair ']' ',' "a],b]".toList = ["a".toList, "b]".toList] := by decide

/-! ## The first separator -/

def cutAtPair? (first second : Char) : List Char → Option (List Char × List Char)
  | [] => none
  | [_] => none
  | character :: next :: rest =>
      if character = first ∧ next = second then some ([], rest)
      else (cutAtPair? first second (next :: rest)).map
        fun (before, after) => (character :: before, after)

example : cutAtPair? ':' '[' "a:[b:[c".toList = some ("a".toList, "b:[c".toList) := by
  decide

/-! ## Joining -/

def join (separator : List Char) : List (List Char) → List Char
  | [] => []
  | [piece] => piece
  | piece :: pieces => piece ++ separator ++ join separator pieces

example : join ", ".toList ["a".toList, "b".toList] = "a, b".toList := by decide

/-! ## What is joined splits again -/

theorem split_of_not_mem {separator : Char} {piece : List Char} (clear : separator ∉ piece) :
    split separator piece = [piece] := by
  induction piece with
  | nil => rfl
  | cons first rest induction =>
      have different : first ≠ separator := fun equal => clear (equal ▸ List.mem_cons_self)
      rw [split, if_neg different,
        induction fun member => clear (List.mem_cons_of_mem _ member)]
      rfl

theorem split_append_cons {separator : Char} {piece : List Char} (clear : separator ∉ piece)
    (rest : List Char) :
    split separator (piece ++ separator :: rest) = piece :: split separator rest := by
  induction piece with
  | nil => rw [List.nil_append, split, if_pos rfl]
  | cons first others induction =>
      have different : first ≠ separator := fun equal => clear (equal ▸ List.mem_cons_self)
      rw [List.cons_append, split, if_neg different,
        induction fun member => clear (List.mem_cons_of_mem _ member)]
      rfl

theorem split_join {separator : Char} {pieces : List (List Char)} (nonempty : pieces ≠ [])
    (clear : ∀ piece ∈ pieces, separator ∉ piece) :
    split separator (join [separator] pieces) = pieces := by
  induction pieces with
  | nil => contradiction
  | cons piece pieces induction =>
      have pieceClear := clear piece List.mem_cons_self
      cases pieces with
      | nil => exact split_of_not_mem pieceClear
      | cons next others =>
          rw [join, List.append_assoc, List.singleton_append, split_append_cons pieceClear,
            induction (List.cons_ne_nil _ _) fun other member =>
              clear other (List.mem_cons_of_mem _ member)]
          exact fun equal => List.cons_ne_nil _ _ equal

end ViewerLogin.Text
