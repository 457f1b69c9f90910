import ViewerLogin.Json.Numeral
import ViewerLogin.Text.Hex

/-!
# Tokens of JSON text

A text is cut into punctuation, words, numerals and strings. A string token keeps the spelling
of its content, so that a string nobody asks for can be passed over without being understood.
-/

namespace ViewerLogin

open Text (Symbol)

inductive Piece where
  | symbol (symbol : Symbol)
  | unit (value : Nat)
  deriving DecidableEq, Repr

inductive Token where
  | openList
  | closeList
  | openMap
  | closeMap
  | comma
  | colon
  | null
  | truth (value : Bool)
  | numeral (numeral : Numeral)
  | text (pieces : List Piece)
  deriving DecidableEq, Repr

namespace Piece

/-! ## The content of strings -/

def escaped? : Char → Option Char
  | '"' => some '"'
  | '\\' => some '\\'
  | '/' => some '/'
  | 'b' => some '\u0008'
  | 'f' => some '\u000c'
  | 'n' => some '\n'
  | 'r' => some '\r'
  | 't' => some '\t'
  | _ => none

def isControl (character : Char) : Bool := character.toNat < 0x20

def scan? : List Symbol → Option (List Piece × List Symbol)
  | [] => none
  | some '"' :: rest => some ([], rest)
  | some '\\' :: some 'u' :: some first :: some second :: some third :: some fourth :: rest =>
      (Text.Hex.read? [first, second, third, fourth]).bind fun value =>
        (scan? rest).map fun (pieces, after) => (.unit value :: pieces, after)
  | some '\\' :: some character :: rest =>
      (escaped? character).bind fun character =>
        (scan? rest).map fun (pieces, after) => (.symbol (some character) :: pieces, after)
  | some character :: rest =>
      if isControl character ∨ character = '\\' then none
      else (scan? rest).map fun (pieces, after) => (.symbol (some character) :: pieces, after)
  | none :: rest =>
      (scan? rest).map fun (pieces, after) => (.symbol none :: pieces, after)

theorem length_of_scan? {symbols after : List Symbol} {pieces : List Piece}
    (scanned : scan? symbols = some (pieces, after)) : after.length < symbols.length := by
  -- In every case a symbol is given up before the rest is scanned.
  fun_induction scan? symbols generalizing pieces after with
  | case1 => contradiction
  | case2 rest =>
      injection scanned with scanned
      injection scanned with _ same
      subst same
      simp
  | case3 first second third fourth rest induction =>
      simp only [Option.bind_eq_some_iff, Option.map_eq_some_iff] at scanned
      rcases scanned with ⟨_, _, ⟨inner, following⟩, found, same⟩
      injection same with _ same
      subst same
      have shorter := induction found
      simp only [List.length_cons]
      omega
  | case4 character rest _ induction =>
      simp only [Option.bind_eq_some_iff, Option.map_eq_some_iff] at scanned
      rcases scanned with ⟨_, _, ⟨inner, following⟩, found, same⟩
      injection same with _ same
      subst same
      have shorter := induction found
      simp only [List.length_cons]
      omega
  | case5 => contradiction
  | case6 character rest _ _ _ _ induction =>
      simp only [Option.map_eq_some_iff] at scanned
      rcases scanned with ⟨⟨inner, following⟩, found, same⟩
      injection same with _ same
      subst same
      have shorter := induction found
      simp only [List.length_cons]
      omega
  | case7 rest induction =>
      simp only [Option.map_eq_some_iff] at scanned
      rcases scanned with ⟨⟨inner, following⟩, found, same⟩
      injection same with _ same
      subst same
      have shorter := induction found
      simp only [List.length_cons]
      omega

/-! ## The text of a string

Characters beyond the first plane may be spelled as a pair of units, the leading surrogate
first. A surrogate by itself stands for nothing. -/

def isLeading (value : Nat) : Bool := 0xD800 ≤ value && value < 0xDC00

def isTrailing (value : Nat) : Bool := 0xDC00 ≤ value && value < 0xE000

def joined (leading trailing : Nat) : Char :=
  Char.ofNat (0x10000 + (leading - 0xD800) * 0x400 + (trailing - 0xDC00))

def characters? : List Piece → Option (List Char)
  | [] => some []
  | .symbol none :: _ => none
  | .symbol (some character) :: rest => (characters? rest).map (character :: ·)
  | .unit leading :: .unit trailing :: rest =>
      if isLeading leading ∧ isTrailing trailing then
        (characters? rest).map (joined leading trailing :: ·)
      else if isLeading leading ∨ isTrailing leading then
        none
      else
        (characters? (.unit trailing :: rest)).map (Char.ofNat leading :: ·)
  | .unit value :: rest =>
      if isLeading value ∨ isTrailing value then none
      else (characters? rest).map (Char.ofNat value :: ·)

example : characters? [.unit 0xD83D, .unit 0xDE00, .unit 0xE9] = some ['😀', 'é'] := by decide

example : characters? [.unit 0xDE00] = none ∧ characters? [.symbol none] = none := by decide

def text? (pieces : List Piece) : Option String :=
  (characters? pieces).map String.ofList

end Piece

namespace Token

/-! ## Scanning -/

def isSpace : Symbol → Bool
  | some character =>
      character = ' ' || character = '\t' || character = '\n' || character = '\r'
  | none => false

def next? : List Symbol → Option (Token × List Symbol)
  | some '[' :: rest => some (.openList, rest)
  | some ']' :: rest => some (.closeList, rest)
  | some '\x7b' :: rest => some (.openMap, rest)
  | some '\x7d' :: rest => some (.closeMap, rest)
  | some ',' :: rest => some (.comma, rest)
  | some ':' :: rest => some (.colon, rest)
  | some 'n' :: some 'u' :: some 'l' :: some 'l' :: rest => some (.null, rest)
  | some 't' :: some 'r' :: some 'u' :: some 'e' :: rest => some (.truth true, rest)
  | some 'f' :: some 'a' :: some 'l' :: some 's' :: some 'e' :: rest =>
      some (.truth false, rest)
  | some '"' :: rest => (Piece.scan? rest).map fun (pieces, after) => (.text pieces, after)
  | symbols => (Numeral.take? symbols).map fun (spelled, after) => (.numeral spelled, after)

theorem length_of_next? {symbols rest : List Symbol} {token : Token}
    (taken : next? symbols = some (token, rest)) : rest.length < symbols.length := by
  unfold next? at taken
  split at taken
  case h_10 =>
      simp only [Option.map_eq_some_iff] at taken
      rcases taken with ⟨⟨pieces, after⟩, found, same⟩
      injection same with _ same
      subst same
      have shorter := Piece.length_of_scan? found
      simp only [List.length_cons]
      omega
  case h_11 =>
      simp only [Option.map_eq_some_iff] at taken
      rcases taken with ⟨⟨spelled, after⟩, found, same⟩
      injection same with _ same
      subst same
      exact Numeral.length_of_take? found
  all_goals
    injection taken with taken
    injection taken with _ same
    subst same
    simp only [List.length_cons]
    omega

def scan? (symbols : List Symbol) : Option (List Token) :=
  match symbols with
  | [] => some []
  | symbol :: rest =>
      if isSpace symbol then
        scan? rest
      else
        match taken : next? (symbol :: rest) with
        | none => none
        | some (token, after) =>
            have := length_of_next? taken
            (scan? after).map (token :: ·)
termination_by symbols.length
decreasing_by all_goals grind

end Token

end ViewerLogin
