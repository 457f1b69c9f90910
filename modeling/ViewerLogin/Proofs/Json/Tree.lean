import ViewerLogin.Proofs.Json.Nesting
import ViewerLogin.Proofs.Json.Token

/-!
# Written values as trees

The tokens that a value is written with are those of its tree, and so they build it.
-/

namespace ViewerLogin

namespace Json

mutual

def tree : Json → Tree
  | .null => .null
  | .truth value => .truth value
  | .number value => .numeral (.ofNumber value)
  | .text value => .text (Piece.ofText value)
  | .list items => .list (itemTrees items)
  | .map members => .map (memberTrees members)

def itemTrees : List Json → List Tree
  | [] => []
  | item :: rest => tree item :: itemTrees rest

def memberTrees : List (String × Json) → List (List Piece × Tree)
  | [] => []
  | (key, value) :: rest => (Piece.ofText key, tree value) :: memberTrees rest

end

theorem separated_itemTrees {items : List Json}
    (each : ∀ item ∈ items, item.tree.tokens = item.tokens) :
    Tree.separated (Tree.itemTokens (itemTrees items)) = itemTokens items := by
  induction items with
  | nil => rfl
  | cons first others induction =>
      have firstSame := each first List.mem_cons_self
      have othersSame := induction fun item member => each item (List.mem_cons_of_mem first member)
      cases others with
      | nil => exact firstSame
      | cons second others =>
          have more : Tree.itemTokens (itemTrees (second :: others)) ≠ [] := List.cons_ne_nil _ _
          rw [itemTrees, Tree.itemTokens, Tree.separated_cons _ more, othersSame, firstSame]
          rfl

theorem separated_memberTrees {members : Members}
    (each : ∀ member ∈ members, member.2.tree.tokens = member.2.tokens) :
    Tree.separated (Tree.memberTokens (memberTrees members)) = memberTokens members := by
  induction members with
  | nil => rfl
  | cons first others induction =>
      rcases first with ⟨key, value⟩
      have firstSame : value.tree.tokens = value.tokens := each (key, value) List.mem_cons_self
      have othersSame := induction fun entry member =>
        each entry (List.mem_cons_of_mem (key, value) member)
      cases others with
      | nil =>
          rw [memberTrees, Tree.memberTokens, firstSame]
          rfl
      | cons second others =>
          have more : Tree.memberTokens (memberTrees (second :: others)) ≠ [] :=
            List.cons_ne_nil _ _
          rw [memberTrees, Tree.memberTokens, Tree.separated_cons _ more, othersSame, firstSame]
          rfl

theorem tokens_tree {depth : Nat} {value : Json} (writable : Writable depth value) :
    value.tree.tokens = value.tokens := by
  induction writable with
  | null _ | truth _ _ | integer _ _ _ | text _ _ => rfl
  | list _ each => rw [tree, Tree.tokens, separated_itemTrees each, tokens, List.cons_append]
  | map _ _ each => rw [tree, Tree.tokens, separated_memberTrees each, tokens, List.cons_append]

end Json

namespace Tree

theorem ofSymbols?_write {depth : Nat} {value : Json} (writable : Json.Writable depth value) :
    ofSymbols? (value.write.map some) = some value.tree := by
  rw [ofSymbols?, Token.scan?_write writable, Option.bind_some, ← Json.tokens_tree writable,
    ofTokens?_tokens]

end Tree

end ViewerLogin
