import ViewerLogin.Proofs.Response.Decoding

/-!
# The keys of a response

A response is written under the keys of the core fields and of the blocks that are sent, each
once, whatever its values are. Responses that differ in some fields are written alike at the
keys of all others; a refusal, which sets two fields, differs from the response with nothing
set at two keys.
-/

namespace ViewerLogin

open Json (Members)

/-! ## Which keys there are -/

theorem Block.nodup_all : Block.all.Nodup := by decide

theorem CoreField.nodup_all : CoreField.all.Nodup := by decide

namespace Field

theorem key_injective : Function.Injective key := fun _ _ => eq_of_key_eq

theorem sent_nodup {blocks : List Block} (distinct : blocks.Nodup) : (sent blocks).Nodup := by
  refine List.nodup_append.mpr ⟨CoreField.nodup_all.map fun _ _ => Field.core.inj,
    distinct.map fun _ _ => Field.block.inj, ?_⟩
  intro core inCore block inBlocks same
  rcases List.mem_map.mp inCore with ⟨_, _, rfl⟩
  rcases List.mem_map.mp inBlocks with ⟨_, _, rfl⟩
  contradiction

theorem keys_sent (blocks : List Block) :
    (sent blocks).map key = CoreField.all.map CoreField.key ++ blocks.map Block.key := by
  rw [sent, List.map_append, List.map_map, List.map_map]
  rfl

end Field

namespace Response

theorem ascending_toMembersWith (response : Response) (blocks : List Block) :
    (response.toMembersWith blocks).Ascending :=
  Members.ascending_ofList _

theorem ascending_toMembers (response : Response) : response.toMembers.Ascending :=
  response.ascending_toMembersWith Block.all

theorem mem_keys_toMembersWith (response : Response) (blocks : List Block) (key : String) :
    key ∈ (response.toMembersWith blocks).map Prod.fst ↔ key ∈ (Field.sent blocks).map Field.key := by
  rw [Members.mem_keys_iff, List.mem_map]
  constructor
  · rintro ⟨value, found⟩
    have inPairs := Members.mem_ofList
      ((Members.get?_eq_some_iff (response.ascending_toMembersWith blocks)).mp found)
    rcases List.mem_map.mp inPairs with ⟨field, member, same⟩
    exact ⟨field, member, (Prod.mk.inj same).1⟩
  · rintro ⟨field, member, rfl⟩
    exact ⟨_, response.get?_toMembersWith_of_mem member⟩

/-- The keys are those of the core fields and of the blocks, in the order of keys. -/
theorem keys_toMembersWith_perm (response : Response) {blocks : List Block}
    (distinct : blocks.Nodup) :
    ((response.toMembersWith blocks).map Prod.fst).Perm
      (CoreField.all.map CoreField.key ++ blocks.map Block.key) := by
  have keysDistinct := (Field.sent_nodup distinct).map Field.key_injective
  rw [← Field.keys_sent]
  exact (List.perm_ext_iff_of_nodup (Members.nodup_keys (response.ascending_toMembersWith blocks))
    keysDistinct).mpr (response.mem_keys_toMembersWith blocks)

/-! ## Refusals -/

theorem get?_toMembers_of_key (response : Response) (field : Field) :
    response.toMembers.get? field.key = some (field.codec.write (response.value field)) := by
  apply get?_toMembersWith_of_mem
  cases field with
  | core field => exact Field.core_mem_sent field _
  | block block => exact Field.block_mem_sent.mpr block.mem_all

theorem value_refusal (message : String) {field : Field} (notLogin : field ≠ .core .login)
    (notMessage : field ≠ .core .message) :
    (refusal message).value field = unset.value field := by
  cases field with
  | core field =>
      cases field with
      | login => exact absurd rfl notLogin
      | message => exact absurd rfl notMessage
      | _ => rfl
  | block block => cases block <;> rfl

/-- A refusal is written like a response with nothing set, but for two of its keys. -/
theorem toMembers_refusal (message : String) :
    (refusal message).toMembers =
      (unset.toMembers.insert "login" (.text "false")).insert "message" (.text message) := by
  apply Members.ext (refusal message).ascending_toMembers
    (Members.ascending_insert (Members.ascending_insert unset.ascending_toMembers _ _) _ _)
  intro key
  rw [Members.get?_insert, Members.get?_insert]
  by_cases known : ∃ field : Field, field.key = key
  · rcases known with ⟨field, rfl⟩
    rw [get?_toMembers_of_key]
    by_cases atMessage : field = .core .message
    · subst atMessage
      rfl
    · have notMessage : field.key ≠ "message" := fun same =>
        atMessage (Field.key_injective (show field.key = Field.key (.core .message) from same))
      rw [if_neg notMessage]
      by_cases atLogin : field = .core .login
      · subst atLogin
        rfl
      · have notLogin : field.key ≠ "login" := fun same =>
          atLogin (Field.key_injective (show field.key = Field.key (.core .login) from same))
        rw [if_neg notLogin, value_refusal message atLogin atMessage]
        exact (unset.get?_toMembers_of_key field).symm
  · have noKey : ∀ field : Field, field.key ≠ key := fun field same => known ⟨field, same⟩
    have notLogin : key ≠ "login" := fun same => noKey (.core .login) same.symm
    have notMessage : key ≠ "message" := fun same => noKey (.core .message) same.symm
    have nothing (response : Response) : response.toMembers.get? key = none :=
      response.get?_toMembersWith_of_no_key fun field _ => noKey field
    rw [if_neg notMessage, if_neg notLogin, nothing, nothing]

end Response

end ViewerLogin
