import ViewerLogin.Json.Tree

/-!
# Reading JSON values

A tree has a value when every string and every numeral in it has one and it nests no deeper
than allowed. Of repeated keys the last one counts.
-/

namespace ViewerLogin.Json

def nestingLimit : Nat := 127

mutual

def ofTree? (depth : Nat) : Tree → Option Json
  | .null => some .null
  | .truth value => some (.truth value)
  | .numeral spelled => spelled.number?.map .number
  | .text pieces => (Piece.text? pieces).map .text
  | .list items => if depth = 0 then none else (itemsOfTrees? (depth - 1) items).map .list
  | .map members =>
      if depth = 0 then none else (membersOfTrees? (depth - 1) [] members).map .map

def itemsOfTrees? (depth : Nat) : List Tree → Option (List Json)
  | [] => some []
  | item :: rest =>
      (ofTree? depth item).bind fun value =>
        (itemsOfTrees? depth rest).map (value :: ·)

def membersOfTrees? (depth : Nat) (before : Members) :
    List (List Piece × Tree) → Option Members
  | [] => some before
  | (key, tree) :: rest =>
      (Piece.text? key).bind fun key =>
        (ofTree? depth tree).bind fun value =>
          membersOfTrees? depth (before.insert key value) rest

end

def ofSymbols? (symbols : List Text.Symbol) : Option Json :=
  (Tree.ofSymbols? symbols).bind (ofTree? nestingLimit)

def ofOctets? (octets : List UInt8) : Option Json :=
  ofSymbols? (Text.Utf8.decode octets)

def ofText? (text : String) : Option Json :=
  ofSymbols? (text.toList.map some)

end ViewerLogin.Json
