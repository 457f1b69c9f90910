import ViewerLogin.Text.Split
import ViewerLogin.Toml.Plain
import ViewerLogin.Toml.Token

/-!
# Nodes of TOML text

A node shows how the lists and tables of one value nest. The members of its tables still have
their dotted keys and stand in the order given; whether they fit together is not asked here.
-/

namespace ViewerLogin.Toml

inductive Node where
  | value (value : Toml)
  | list (items : List Node)
  | table (members : List (List String × Node))
  deriving Repr

/-! ## Keys -/

/-- Lists, tables and the parts of keys are counted up to this number, which is too many. -/
def nestingLimit : Nat := 80

inductive KeyPart where
  | name (name : String)
  | dot
  deriving DecidableEq, Repr

namespace KeyPart

def ofPiece? (piece : List Char) : Option (List KeyPart) :=
  match Text.trimCharacters piece with
  | [] => some []
  | bare => if bare.all Token.isBare then some [.name (String.ofList bare)] else none

def punctuate : List (List KeyPart) → List KeyPart
  | [] => []
  | [parts] => parts
  | parts :: rest => parts ++ .dot :: punctuate rest

def ofToken? : Token → Option (List KeyPart)
  | .plain characters => ((Text.split '.' characters).mapM ofPiece?).map punctuate
  | .quoted content => some [.name content]
  | .gap => some []
  | _ => none

def names? : List KeyPart → Option (List String)
  | [.name last] => some [last]
  | .name first :: .dot :: rest => (names? rest).map (first :: ·)
  | _ => none

end KeyPart

def path? (tokens : List Token) : Option (List String) :=
  ((tokens.mapM KeyPart.ofToken?).bind fun parts => KeyPart.names? parts.flatten).filter
    fun names => names.length < nestingLimit

example : path? [.plain "a . b.".toList, .quoted "c d"] = some ["a", "b", "c d"] := by
  decide +kernel

example : path? [.plain "a b".toList] = none ∧ path? [.plain "a..b".toList] = none := by
  decide +kernel

namespace Node

/-! ## Building

The lists and tables that are still open form a stack, the innermost first. What has been read
of each stands in reverse order. -/

inductive Frame where
  | items (before : List Node)
  | member (before : List (List String × Node)) (path : List String)

inductive Expected where
  | value
  | valueOrEnd
  | key (before : List (List String × Node)) (tokens : List Token)
  | afterValue (value : Node)

def isBlank : List Frame → Expected → Token → Bool
  | _, _, .gap => true
  | _, .key _ _, _ => false
  | .items _ :: _, _, .newline => true
  | _, _, _ => false

def leaf? : Token → Option Node
  | .plain characters => (Plain.read? characters).map .value
  | .quoted content => some (.value (.text content))
  | .block content => some (.value (.text content))
  | _ => none

def start? (stack : List Frame) : Token → Option (List Frame × Expected)
  | .openList =>
      if stack.length + 1 < nestingLimit then some (.items [] :: stack, .valueOrEnd) else none
  | .openTable =>
      if stack.length + 1 < nestingLimit then some (stack, .key [] []) else none
  | token => (leaf? token).map fun leaf => (stack, .afterValue leaf)

def resume? (value : Node) : List Frame → Token → Option (List Frame × Expected)
  | .items before :: stack, .comma => some (.items (value :: before) :: stack, .valueOrEnd)
  | .items before :: stack, .closeList =>
      some (stack, .afterValue (.list (value :: before).reverse))
  | .member before path :: stack, .comma => some (stack, .key ((path, value) :: before) [])
  | .member before path :: stack, .closeTable =>
      some (stack, .afterValue (.table ((path, value) :: before).reverse))
  | _, _ => none

def step? (stack : List Frame) (token : Token) : Expected → Option (List Frame × Expected)
  | .value => start? stack token
  | .valueOrEnd =>
      match stack, token with
      | .items before :: outer, .closeList => some (outer, .afterValue (.list before.reverse))
      | _, _ => start? stack token
  | .key before tokens =>
      match before, tokens, token with
      | [], [], .closeTable => some (stack, .afterValue (.table []))
      | _, _, .equals =>
          (path? tokens.reverse).map fun path => (.member before path :: stack, .value)
      | _, _, _ => some (stack, .key before (token :: tokens))
  | .afterValue complete => resume? complete stack token

def build? (stack : List Frame) (expected : Expected) : List Token → Option Node
  | [] =>
      match stack, expected with
      | [], .afterValue complete => some complete
      | _, _ => none
  | token :: rest =>
      if isBlank stack expected token then build? stack expected rest
      else
        match step? stack token expected with
        | some (stack, expected) => build? stack expected rest
        | none => none

def ofTokens? (tokens : List Token) : Option Node := build? [] .value tokens

end Node

end ViewerLogin.Toml
