import ViewerLogin.Text.LowerCase.Table

/-!
# Lower case

Account names are compared in lower case. Every letter has a lower-case form by the table;
two capitals depend on more than the table: the capital I with a dot becomes two characters,
and a capital sigma at the end of a word takes the final form.
-/

namespace ViewerLogin.Text

namespace LowerCase

def shiftOf (code : Nat) : Int :=
  match rows.find? (·.covers code) with
  | some row => row.shift
  | none => 0

def letter (character : Char) : Char :=
  Char.ofNat (character.toNat + shiftOf character.toNat).toNat

example : letter 'R' = 'r' ∧ letter 'É' = 'é' ∧ letter 'Ж' = 'ж' ∧ letter '7' = '7' := by
  decide

def inRanges (ranges : List (Nat × Nat)) (character : Char) : Bool :=
  ranges.any fun (first, last) => first ≤ character.toNat && character.toNat ≤ last

def isCased (character : Char) : Bool := inRanges casedRanges character

def isIgnorable (character : Char) : Bool := inRanges ignorableRanges character

/-! ## The final sigma -/

def startsCased (characters : List Char) : Bool :=
  match characters.dropWhile isIgnorable with
  | [] => false
  | character :: _ => isCased character

def sigma (before after : List Char) : Char :=
  if startsCased before && !startsCased after then 'ς' else 'σ'

/-! ## Whole texts -/

/-- The characters of one character in its place; `before` is read backwards. -/
def character (before : List Char) (current : Char) (after : List Char) : List Char :=
  if current = 'Σ' then [sigma before after]
  else if current = 'İ' then ['i', '\u0307']
  else [letter current]

def characters (before : List Char) : List Char → List Char
  | [] => []
  | current :: after =>
      character before current after ++ characters (current :: before) after

example : characters [] "ΟΔΥΣΣΕΥΣ".toList = "οδυσσευς".toList := by decide +kernel

end LowerCase

def lowerCase (text : String) : String :=
  String.ofList (LowerCase.characters [] text.toList)

end ViewerLogin.Text
