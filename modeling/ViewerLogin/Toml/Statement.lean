import ViewerLogin.Toml.Node

/-!
# Statements of TOML text

A document is a sequence of statements, one a line: headers that open a table, and members
that are set in the table opened last. A line that opens a list goes on until the list ends.
-/

namespace ViewerLogin.Toml

inductive Statement where
  | header (repeated : Bool) (path : List String)
  | member (path : List String) (node : Node)

namespace Statement

/-! ## Lines -/

def depthAfter (depth : Nat) : Token → Nat
  | .openList | .openTable => depth + 1
  | .closeList | .closeTable => depth - 1
  | _ => depth

def extendFirst (token : Token) : List (List Token) → List (List Token)
  | [] => [[token]]
  | line :: lines => (token :: line) :: lines

def lines (depth : Nat) : List Token → List (List Token)
  | [] => [[]]
  | token :: rest =>
      -- A line goes on as long as a list or a table is open.
      if depth = 0 ∧ token = .newline then [] :: lines 0 rest
      else extendFirst token (lines (depthAfter depth token) rest)

example : lines 0 [.openList, .newline, .closeList, .newline] =
    [[.openList, .newline, .closeList], []] := by decide

/-! ## Statements -/

def cutEnd? (ending line : List Token) : Option (List Token) :=
  let before := line.take (line.length - ending.length)
  if before ++ ending = line then some before else none

def isGap (token : Token) : Bool := token = .gap

def trim (line : List Token) : List Token :=
  ((line.dropWhile isGap).reverse.dropWhile isGap).reverse

def member? (line : List Token) : Option Statement :=
  match line.dropWhile (· ≠ .equals) with
  | _ :: value =>
      (path? (line.takeWhile (· ≠ .equals))).bind fun path =>
        (Node.ofTokens? value).map (.member path)
  | [] => none

def ofLine? : List Token → Option Statement
  | .openList :: .openList :: rest =>
      ((cutEnd? [.closeList, .closeList] rest).bind path?).map (.header true)
  | .openList :: rest => ((cutEnd? [.closeList] rest).bind path?).map (.header false)
  | line => member? line

def ofTokens? (tokens : List Token) : Option (List Statement) :=
  (((lines 0 tokens).map trim).filter (· ≠ [])).mapM ofLine?

end Statement

end ViewerLogin.Toml
