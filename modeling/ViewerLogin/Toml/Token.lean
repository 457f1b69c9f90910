import ViewerLogin.Text.Blank
import ViewerLogin.Toml.Quoted

/-!
# Tokens of TOML text

A text is cut into punctuation, quoted texts and plain runs. A plain run holds the words of a
key or of a value with the blank space inside it, so that its reader sees where a space
stands. Comments count as blank space.
-/

namespace ViewerLogin.Toml

inductive Token where
  | openList
  | closeList
  | openTable
  | closeTable
  | comma
  | equals
  | newline
  | gap
  | plain (characters : List Char)
  | quoted (text : String)
  | block (text : String)
  deriving DecidableEq, Repr

namespace Token

/-! ## Lines -/

def unifyBreaks : List Char → List Char
  | '\r' :: '\n' :: rest => '\n' :: unifyBreaks rest
  | character :: rest => character :: unifyBreaks rest
  | [] => []

def afterComment? (characters : List Char) : Option (List Char) :=
  if (characters.takeWhile (· ≠ '\n')).all Quotation.isInline then
    some (characters.dropWhile (· ≠ '\n'))
  else
    none

/-! ## Plain runs -/

def isBare (character : Char) : Bool :=
  character.isAlphanum || character = '_' || character = '-'

def isPlain (character : Char) : Bool :=
  isBare character || character = '.' || character = '+' || character = ':' ||
    Quotation.isIndent character

def ofRun (characters : List Char) : Token :=
  match Text.trimCharacters characters with
  | [] => .gap
  | trimmed => .plain trimmed

/-! ## Scanning -/

def quoted? (quotation : Quotation) (characters : List Char) : Option (Token × List Char) :=
  if characters.take 2 = [quotation.mark, quotation.mark] then
    (quotation.lines? (characters.drop 2)).map fun (text, after) => (.block text, after)
  else
    (quotation.line? characters).map fun (text, after) => (.quoted text, after)

def next? (first : Char) (rest : List Char) : Option (Token × List Char) :=
  match first with
  | '[' => some (.openList, rest)
  | ']' => some (.closeList, rest)
  | '\x7b' => some (.openTable, rest)
  | '\x7d' => some (.closeTable, rest)
  | ',' => some (.comma, rest)
  | '=' => some (.equals, rest)
  | '\n' => some (.newline, rest)
  | '#' => (afterComment? rest).map fun after => (.gap, after)
  | '\x22' => quoted? .escaped rest
  | '\'' => quoted? .literal rest
  | _ =>
      if isPlain first then
        some (ofRun (first :: rest.takeWhile isPlain), rest.dropWhile isPlain)
      else
        none

theorem length_of_quoted? {quotation : Quotation} {characters after : List Char} {token : Token}
    (taken : quoted? quotation characters = some (token, after)) :
    after.length ≤ characters.length := by
  unfold quoted? at taken
  split at taken
  · simp only [Option.map_eq_some_iff] at taken
    rcases taken with ⟨⟨text, following⟩, read, same⟩
    injection same with _ same
    subst same
    have shorter := Quotation.length_of_lines? read
    rw [List.length_drop] at shorter
    exact Nat.le_trans shorter (Nat.sub_le _ _)
  · simp only [Option.map_eq_some_iff] at taken
    rcases taken with ⟨⟨text, following⟩, read, same⟩
    injection same with _ same
    subst same
    exact Quotation.length_of_line? read

theorem length_of_afterComment? {characters after : List Char}
    (dropped : afterComment? characters = some after) : after.length ≤ characters.length := by
  unfold afterComment? at dropped
  split at dropped
  · injection dropped with same
    subst same
    exact (List.dropWhile_suffix _).length_le
  · contradiction

theorem length_of_next? {first : Char} {rest after : List Char} {token : Token}
    (taken : next? first rest = some (token, after)) : after.length ≤ rest.length := by
  unfold next? at taken
  split at taken
  case h_8 =>
    simp only [Option.map_eq_some_iff] at taken
    rcases taken with ⟨following, dropped, same⟩
    injection same with _ same
    subst same
    exact length_of_afterComment? dropped
  case h_9 => exact length_of_quoted? taken
  case h_10 => exact length_of_quoted? taken
  case h_11 =>
    split at taken
    · injection taken with taken
      injection taken with _ same
      subst same
      exact (List.dropWhile_suffix _).length_le
    · contradiction
  all_goals
    injection taken with taken
    injection taken with _ same
    subst same
    exact Nat.le_refl _

def scan? (characters : List Char) : Option (List Token) :=
  match characters with
  | [] => some []
  | first :: rest =>
      match taken : next? first rest with
      | none => none
      | some (token, after) =>
          have := length_of_next? taken
          (scan? after).map (token :: ·)
termination_by characters.length
decreasing_by simp only [List.length_cons]; omega

def ofCharacters? : List Char → Option (List Token)
  | '\ufeff' :: rest => scan? (unifyBreaks rest)
  | characters => scan? (unifyBreaks characters)

example : ofCharacters? "a . b = '[' # c".toList =
    some [.plain "a . b".toList, .equals, .gap, .quoted "[", .gap, .gap] := by decide +kernel

end Token

end ViewerLogin.Toml
