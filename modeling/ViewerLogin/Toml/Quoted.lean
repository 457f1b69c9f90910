import ViewerLogin.Text.Hex

/-!
# Quoted text

A text stands between quotation marks or between apostrophes, on one line or, with three marks
at each end, on several. Between quotation marks a backslash starts an escape; between
apostrophes every character stands for itself.
-/

namespace ViewerLogin.Toml

inductive Quotation where
  | escaped
  | literal
  deriving DecidableEq, Repr

namespace Quotation

def mark : Quotation → Char
  | .escaped => '\x22'
  | .literal => '\''

/-! ## Finding the end -/

def isInline (character : Char) : Bool :=
  character = '\t' || (0x20 ≤ character.toNat && character.toNat ≠ 0x7F)

def startsEscape (quotation : Quotation) (escaping : Bool) (character : Char) : Bool :=
  quotation = .escaped && !escaping && character = '\\'

/-- The spelling of a text on one line, and what follows its closing mark. While `escaping`
the next character belongs to an escape. -/
def cutLine? (quotation : Quotation) (escaping : Bool) :
    List Char → Option (List Char × List Char)
  | [] => none
  | character :: rest =>
      if character = quotation.mark ∧ !escaping then some ([], rest)
      else if isInline character then
        (cutLine? quotation (quotation.startsEscape escaping character) rest).map
          fun (content, after) => (character :: content, after)
      else
        none

/-- Three marks close a text on several lines. Up to two more marks before them belong to it. -/
def closing? (mark : Char) (characters : List Char) : Option (List Char × List Char) :=
  let run := (characters.takeWhile (· == mark)).length
  if run < 3 then none
  else
    let kept := min (run - 3) 2
    some (List.replicate kept mark, characters.drop (kept + 3))

def cutLines? (quotation : Quotation) (escaping : Bool) :
    List Char → Option (List Char × List Char)
  | [] => none
  | character :: rest =>
      match if escaping then none else closing? quotation.mark (character :: rest) with
      | some closed => some closed
      | none =>
          if isInline character ∨ character = '\n' then
            (cutLines? quotation (quotation.startsEscape escaping character) rest).map
              fun (content, after) => (character :: content, after)
          else
            none

/-! ## Escapes -/

def escape? : Char → Option Char
  | 'b' => some '\u0008'
  | 't' => some '\t'
  | 'n' => some '\n'
  | 'f' => some '\u000c'
  | 'r' => some '\r'
  | '\x22' => some '\x22'
  | '\\' => some '\\'
  | _ => none

def codeWidth? : Char → Option Nat
  | 'u' => some 4
  | 'U' => some 8
  | _ => none

def coded? (width : Nat) (digits : List Char) : Option Char :=
  if digits.length = width then
    (Text.Hex.read? digits).bind fun code =>
      if code.isValidChar then some (Char.ofNat code) else none
  else
    none

def isIndent (character : Char) : Bool := character = ' ' || character = '\t'

def endsLine (characters : List Char) : Bool :=
  (characters.dropWhile isIndent).head? = some '\n'

/-- The text that a spelling stands for. A backslash at the end of a line leaves out the line
break and all blank space after it: it is left out while `skipping`. -/
def unescape? (skipping : Bool) : List Char → Option (List Char)
  | [] => some []
  | '\\' :: character :: rest =>
      match escape? character, codeWidth? character with
      | some meant, _ => (unescape? false rest).map (meant :: ·)
      | none, some width =>
          (coded? width (rest.take width)).bind fun character =>
            (unescape? false (rest.drop width)).map (character :: ·)
      | none, none => if endsLine (character :: rest) then unescape? true rest else none
  | character :: rest =>
      if character = '\\' then none
      else if skipping ∧ (isIndent character ∨ character = '\n') then unescape? true rest
      else (unescape? false rest).map (character :: ·)
termination_by characters => characters.length
decreasing_by all_goals grind

example : unescape? false "a\\u00e9\\\n  \n b".toList = some "aéb".toList := by
  decide +kernel

def text? (quotation : Quotation) (spelling : List Char) : Option String :=
  match quotation with
  | .escaped => (unescape? false spelling).map String.ofList
  | .literal => some (String.ofList spelling)

/-! ## Whole texts

What is cut here starts after the opening mark or marks. -/

def line? (quotation : Quotation) (characters : List Char) : Option (String × List Char) :=
  (cutLine? quotation false characters).bind fun (spelling, after) =>
    (text? quotation spelling).map fun text => (text, after)

/-- A line break right after the opening marks is left out. -/
def lines? (quotation : Quotation) (characters : List Char) : Option (String × List Char) :=
  (cutLines? quotation false characters).bind fun (spelling, after) =>
    (text? quotation (if spelling.head? = some '\n' then spelling.tail else spelling)).map
      fun text => (text, after)

example : lines? .literal "\na''''''b".toList = some ("a''", "'b".toList) := by
  decide +kernel

/-! ## What is cut is shorter -/

theorem length_of_cutLine? {quotation : Quotation} {escaping : Bool}
    {characters content after : List Char}
    (cut : cutLine? quotation escaping characters = some (content, after)) :
    after.length ≤ characters.length := by
  fun_induction cutLine? quotation escaping characters generalizing content after with
  | case1 => contradiction
  | case2 =>
      injection cut with cut
      injection cut with _ same
      subst same
      simp
  | case3 _ _ _ _ _ induction =>
      simp only [Option.map_eq_some_iff] at cut
      rcases cut with ⟨⟨inner, following⟩, found, same⟩
      injection same with _ same
      subst same
      have shorter := induction found
      simp only [List.length_cons]
      omega
  | case4 => contradiction

theorem length_of_closing? {mark : Char} {characters content after : List Char}
    (closed : closing? mark characters = some (content, after)) :
    after.length ≤ characters.length := by
  simp only [closing?] at closed
  split at closed
  · contradiction
  · injection closed with closed
    injection closed with _ same
    rw [← same, List.length_drop]
    exact Nat.sub_le _ _

theorem length_of_cutLines? {quotation : Quotation} {escaping : Bool}
    {characters content after : List Char}
    (cut : cutLines? quotation escaping characters = some (content, after)) :
    after.length ≤ characters.length := by
  fun_induction cutLines? quotation escaping characters generalizing content after with
  | case1 => contradiction
  | case2 _ _ _ _ closed =>
      injection cut with same
      rw [same] at closed
      split at closed
      · contradiction
      · exact length_of_closing? closed
  | case3 _ _ _ _ _ induction =>
      simp only [Option.map_eq_some_iff] at cut
      rcases cut with ⟨⟨inner, following⟩, found, same⟩
      injection same with _ same
      subst same
      have shorter := induction found
      simp only [List.length_cons]
      omega
  | case4 => contradiction

theorem length_of_line? {quotation : Quotation} {characters after : List Char} {text : String}
    (read : line? quotation characters = some (text, after)) :
    after.length ≤ characters.length := by
  simp only [line?, Option.bind_eq_some_iff, Option.map_eq_some_iff] at read
  rcases read with ⟨⟨spelling, following⟩, cut, _, _, same⟩
  injection same with _ same
  subst same
  exact length_of_cutLine? cut

theorem length_of_lines? {quotation : Quotation} {characters after : List Char} {text : String}
    (read : lines? quotation characters = some (text, after)) :
    after.length ≤ characters.length := by
  simp only [lines?, Option.bind_eq_some_iff, Option.map_eq_some_iff] at read
  rcases read with ⟨⟨spelling, following⟩, cut, _, _, same⟩
  injection same with _ same
  subst same
  exact length_of_cutLines? cut

end Quotation

end ViewerLogin.Toml
