import ViewerLogin.Proofs.Json.Members

/-!
# Values that can be written and read back

Values without reals, whose integers are numbers and whose lists and maps do not nest too
deep. The maps that are built member by member are always in order.
-/

namespace ViewerLogin.Json

/-- Values with at most `depth` lists and maps inside each other. -/
inductive Writable : (depth : Nat) → Json → Prop where
  | null (depth : Nat) : Writable depth .null
  | truth (depth : Nat) (value : Bool) : Writable depth (.truth value)
  | integer (depth : Nat) {value : Int} (above : Number.leastInteger ≤ value)
      (below : value < Number.integerLimit) : Writable depth (.number (.integer value))
  | text (depth : Nat) (value : String) : Writable depth (.text value)
  | list {depth : Nat} {items : List Json} (each : ∀ item ∈ items, Writable depth item) :
      Writable (depth + 1) (.list items)
  | map {depth : Nat} {members : Members} (ascending : members.Ascending)
      (each : ∀ member ∈ members, Writable depth member.2) : Writable (depth + 1) (.map members)

theorem writable_ofList {depth : Nat} {pairs : List (String × Json)}
    (each : ∀ pair ∈ pairs, Writable depth pair.2) :
    Writable (depth + 1) (.map (Members.ofList pairs)) :=
  .map (Members.ascending_ofList pairs) fun member inside =>
    each member (Members.mem_ofList inside)

end ViewerLogin.Json
