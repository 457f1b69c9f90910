import ViewerLogin.Json.Reader
import ViewerLogin.Proofs.Json.Tree
import ViewerLogin.Proofs.Text.Utf8

/-!
# Values read back

A value that can be written is read back from its octets as it was: its tree has the value
again, with the members of maps in the order that they had.
-/

namespace ViewerLogin

namespace Json

variable {depth : Nat}

theorem itemsOfTrees?_itemTrees {items : List Json}
    (each : ∀ item ∈ items, ofTree? depth item.tree = some item) :
    itemsOfTrees? depth (itemTrees items) = some items := by
  induction items with
  | nil => rfl
  | cons first rest induction =>
      have restRead := induction fun item member => each item (List.mem_cons_of_mem _ member)
      rw [itemTrees, itemsOfTrees?, each first List.mem_cons_self, Option.bind_some, restRead]
      rfl

theorem membersOfTrees?_memberTrees {members : Members} (before : Members)
    (ascending : Members.Ascending (before ++ members))
    (each : ∀ member ∈ members, ofTree? depth member.2.tree = some member.2) :
    membersOfTrees? depth before (memberTrees members) = some (before ++ members) := by
  induction members generalizing before with
  | nil => rw [memberTrees, membersOfTrees?, List.append_nil]
  | cons first rest induction =>
      rcases first with ⟨key, value⟩
      have above : ∀ entry ∈ before, entry.1 < key := fun entry member =>
        (List.pairwise_append.mp ascending).2.2 entry member (key, value) List.mem_cons_self
      have restRead := induction (before ++ [(key, value)])
        (by rw [List.append_assoc]; exact ascending)
        (fun item member => each item (List.mem_cons_of_mem _ member))
      rw [List.append_assoc] at restRead
      rw [memberTrees, membersOfTrees?, Piece.text?_ofText, Option.bind_some,
        each (key, value) List.mem_cons_self, Option.bind_some, Members.insert_of_above value above,
        restRead]
      rfl

theorem ofTree?_tree {value : Json} (writable : Writable depth value) :
    ofTree? depth value.tree = some value := by
  induction writable with
  | null _ | truth _ _ => rfl
  | @integer _ value above below =>
      rw [tree, ofTree?, Numeral.ofNumber_integer, Numeral.number?_ofInt above below]
      rfl
  | text _ value =>
      rw [tree, ofTree?, Piece.text?_ofText]
      rfl
  | list _ each =>
      rw [tree, ofTree?, if_neg (Nat.succ_ne_zero _), Nat.add_sub_cancel,
        itemsOfTrees?_itemTrees each]
      rfl
  | map ascending _ each =>
      rw [tree, ofTree?, if_neg (Nat.succ_ne_zero _), Nat.add_sub_cancel,
        membersOfTrees?_memberTrees [] ascending each]
      rfl

theorem ofOctets?_encode {value : Json} (writable : Writable nestingLimit value) :
    ofOctets? (Text.Utf8.encode value.write) = some value := by
  rw [ofOctets?, Text.Utf8.decode_encode, ofSymbols?, Tree.ofSymbols?_write writable,
    Option.bind_some, ofTree?_tree writable]

end Json

end ViewerLogin
