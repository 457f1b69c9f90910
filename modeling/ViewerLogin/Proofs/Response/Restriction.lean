import Mathlib.Data.List.Dedup
import ViewerLogin.Proofs.Response.Keys

/-!
# Responses of some blocks

A response written for a list of blocks is what the whole response has at the core keys and at the
keys of these blocks. The order of the blocks and how often they are listed do not matter, and no
two of them meet at one key.
-/

namespace ViewerLogin

open Json (Members)

def coreKeys : List String := [
  "home", "look_at", "agent_access", "agent_access_max", "seed_capability", "first_name",
  "last_name", "agent_id", "sim_ip", "sim_port", "http_port", "start_location", "region_x",
  "region_y", "region_size_x", "region_size_y", "circuit_code", "session_id",
  "secure_session_id", "login", "message"]

theorem Field.keys_sent_eq (blocks : List Block) :
    (sent blocks).map key = coreKeys ++ blocks.map Block.key :=
  keys_sent blocks

namespace Response

variable (response : Response)

/-! ## What is written -/

theorem toMembersWith_eq_filter (blocks : List Block) :
    response.toMembersWith blocks =
      response.toMembers.filter fun entry => entry.1 ∈ coreKeys ++ blocks.map Block.key := by
  apply Members.ext (response.ascending_toMembersWith blocks)
    (Members.ascending_filter response.ascending_toMembers _)
  intro key
  rw [Members.get?_filter_key response.toMembers
    (fun key => decide (key ∈ coreKeys ++ blocks.map Block.key)), ← Field.keys_sent_eq]
  by_cases known : key ∈ (Field.sent blocks).map Field.key
  · rw [if_pos (decide_eq_true known)]
    obtain ⟨field, member, same⟩ := List.mem_map.mp known
    rw [← same, response.get?_toMembersWith_of_mem member, response.get?_toMembers_of_key]
  · rw [if_neg (by simpa using known)]
    apply response.get?_toMembersWith_of_no_key
    intro field member same
    exact known (List.mem_map.mpr ⟨field, member, same⟩)

theorem toMembersWith_congr {left right : List Block} (same : ∀ block, block ∈ left ↔ block ∈ right) :
    response.toMembersWith left = response.toMembersWith right := by
  have sameKeys (key : String) : key ∈ coreKeys ++ left.map Block.key ↔
      key ∈ coreKeys ++ right.map Block.key := by
    simp only [List.mem_append, List.mem_map, same]
  rw [toMembersWith_eq_filter, toMembersWith_eq_filter]
  simp only [sameKeys]

theorem keys_toMembersWith_eq (other : Response) (blocks : List Block) :
    (response.toMembersWith blocks).map Prod.fst = (other.toMembersWith blocks).map Prod.fst := by
  apply Members.keys_eq (response.ascending_toMembersWith blocks)
    (other.ascending_toMembersWith blocks)
  intro key
  rw [mem_keys_toMembersWith, mem_keys_toMembersWith]

theorem length_toMembersWith (blocks : List Block) :
    (response.toMembersWith blocks).length = 21 + blocks.dedup.length := by
  have distinct : blocks.dedup.Nodup := List.nodup_dedup blocks
  have same (block : Block) : block ∈ blocks ↔ block ∈ blocks.dedup := List.mem_dedup.symm
  calc
    (response.toMembersWith blocks).length = (response.toMembersWith blocks.dedup).length := by
      rw [response.toMembersWith_congr same]
    _ = ((response.toMembersWith blocks.dedup).map Prod.fst).length := (List.length_map _).symm
    _ = (CoreField.all.map CoreField.key ++ blocks.dedup.map Block.key).length :=
      (response.keys_toMembersWith_perm distinct).length_eq
    _ = 21 + blocks.dedup.length := by
      rw [List.length_append, List.length_map, List.length_map]
      rfl

theorem get?_toMembersWith_block {block : Block} {blocks : List Block} (absent : block ∉ blocks) :
    (response.toMembersWith blocks).get? block.key = none := by
  have unsent : .block block ∉ Field.sent blocks := fun member =>
    absent (Field.block_mem_sent.mp member)
  exact response.get?_toMembersWith_of_not_mem unsent

/-! ## Restriction -/

/-- What is written for a list of blocks is the whole response restricted to the core keys and the
keys of these blocks, each of which has the value of its own field: a block that is added takes a
free key. Which keys there are depends only on the set of the blocks, not on the response; all
blocks together make 36 of them. -/
theorem toMembersWith_restricts (blocks : List Block) :
    response.toMembersWith blocks =
        response.toMembers.filter (fun entry => entry.1 ∈ coreKeys ++ blocks.map Block.key) ∧
      (∀ other : Response, (other.toMembersWith blocks).map Prod.fst =
        (response.toMembersWith blocks).map Prod.fst) ∧
      (response.toMembersWith blocks).length = 21 + blocks.dedup.length ∧
      (∀ field ∈ Field.sent blocks, (response.toMembersWith blocks).get? field.key =
        some (field.codec.write (response.value field))) ∧
      (∀ block, block ∉ blocks → (response.toMembersWith blocks).get? block.key = none) ∧
      (∀ others : List Block, (∀ block, block ∈ others ↔ block ∈ blocks) →
        response.toMembersWith others = response.toMembersWith blocks) ∧
      response.toMembers.length = 36 ∧
      ∀ other : Response, other.toMembers.map Prod.fst = response.toMembers.map Prod.fst := by
  refine ⟨response.toMembersWith_eq_filter blocks, ?_, response.length_toMembersWith blocks,
    ?_, ?_, ?_, response.length_toMembersWith Block.all, ?_⟩
  · intro other
    exact other.keys_toMembersWith_eq response blocks
  · intro field member
    exact response.get?_toMembersWith_of_mem member
  · intro block absent
    exact response.get?_toMembersWith_block absent
  · intro others same
    exact response.toMembersWith_congr same
  · intro other
    exact other.keys_toMembersWith_eq response Block.all

end Response

end ViewerLogin
