import ViewerLogin.Json.Token

/-!
# Trees of tokens

A tree shows how the tokens of a text nest. Strings and numerals keep their spelling and maps
keep every member in the order given, so the grammar of JSON is settled here and nothing else:
what a tree means, and whether it means anything, is for its reader to say.
-/

namespace ViewerLogin

inductive Tree where
  | null
  | truth (value : Bool)
  | numeral (numeral : Numeral)
  | text (pieces : List Piece)
  | list (items : List Tree)
  | map (members : List (List Piece × Tree))
  deriving Repr

namespace Tree

/-! ## Building

The lists and maps that are still open form a stack, the innermost first. What has been read
of each stands in reverse order. -/

inductive Frame where
  | items (before : List Tree)
  | member (before : List (List Piece × Tree)) (key : List Piece)

inductive Expected where
  | value
  | valueOrEnd
  | key (before : List (List Piece × Tree))
  | keyOrEnd
  | colon
  | afterValue (value : Tree)

def leaf? : Token → Option Tree
  | .null => some .null
  | .truth value => some (.truth value)
  | .numeral spelled => some (.numeral spelled)
  | .text pieces => some (.text pieces)
  | _ => none

def start? (stack : List Frame) : Token → Option (List Frame × Expected)
  | .openList => some (.items [] :: stack, .valueOrEnd)
  | .openMap => some (stack, .keyOrEnd)
  | token => (leaf? token).map fun value => (stack, .afterValue value)

def resume? (value : Tree) : List Frame → Token → Option (List Frame × Expected)
  | .items before :: stack, .comma => some (.items (value :: before) :: stack, .value)
  | .items before :: stack, .closeList =>
      some (stack, .afterValue (.list (value :: before).reverse))
  | .member before key :: stack, .comma => some (stack, .key ((key, value) :: before))
  | .member before key :: stack, .closeMap =>
      some (stack, .afterValue (.map ((key, value) :: before).reverse))
  | _, _ => none

def step? (stack : List Frame) (token : Token) : Expected → Option (List Frame × Expected)
  | .value => start? stack token
  | .valueOrEnd =>
      match stack, token with
      | .items [] :: outer, .closeList => some (outer, .afterValue (.list []))
      | _, _ => start? stack token
  | .key before =>
      match token with
      | .text key => some (.member before key :: stack, .colon)
      | _ => none
  | .keyOrEnd =>
      match token with
      | .text key => some (.member [] key :: stack, .colon)
      | .closeMap => some (stack, .afterValue (.map []))
      | _ => none
  | .colon =>
      match token with
      | .colon => some (stack, .value)
      | _ => none
  | .afterValue value => resume? value stack token

def build? (stack : List Frame) (expected : Expected) : List Token → Option Tree
  | [] =>
      match stack, expected with
      | [], .afterValue value => some value
      | _, _ => none
  | token :: rest =>
      match step? stack token expected with
      | some (stack, expected) => build? stack expected rest
      | none => none

def ofTokens? (tokens : List Token) : Option Tree :=
  build? [] .value tokens

example : ofTokens? [.openList, .null, .comma, .openMap, .closeMap, .closeList] =
    some (.list [.null, .map []]) := rfl

example : (ofTokens? [.openList, .null, .comma, .closeList]).isNone = true := rfl

def ofSymbols? (symbols : List Text.Symbol) : Option Tree :=
  (Token.scan? symbols).bind ofTokens?

end Tree

end ViewerLogin
