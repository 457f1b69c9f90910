import ViewerLogin.Proofs.Json.Writable
import ViewerLogin.Proofs.Request.Field

/-!
# Requests read back

A request is read back from its map as it was, unless one of its required fields is blank; then
the first of these is complained about. Selectors come back from their names.
-/

namespace ViewerLogin

/-! ## Selectors -/

theorem Block.key_injective : Function.Injective Block.key := by
  intro left right same
  apply Option.some.inj
  rw [← Block.ofKey?_key left, same, Block.ofKey?_key]

namespace Selector

theorem firstOccurrences_of_nodup {names : List String} (distinct : names.Nodup) :
    firstOccurrences names = names := by
  induction names with
  | nil => rfl
  | cons first rest induction =>
      rcases List.nodup_cons.mp distinct with ⟨fresh, restDistinct⟩
      rw [firstOccurrences, induction restDistinct, List.filter_eq_self.mpr]
      intro name member
      have different : name ≠ first := fun same => fresh (same ▸ member)
      simpa using different

theorem key_mem_names {selector : Selector} {block : Block} :
    block.key ∈ selector.names ↔ selector.includes block = true := by
  rw [names, List.mem_append]
  constructor
  · rintro (inBlocks | inExtra)
    · rcases List.mem_map.mp inBlocks with ⟨other, member, same⟩
      rw [← Block.key_injective same]
      exact (List.mem_filter.mp member).2
    · have unknown := selector.extra_unknown _ inExtra
      rw [Block.ofKey?_key] at unknown
      contradiction
  · intro included
    exact .inl (List.mem_map_of_mem (List.mem_filter.mpr ⟨block.mem_all, included⟩))

theorem unknownNames_names (selector : Selector) :
    unknownNames selector.names = selector.extra := by
  have known : (selector.blocks.map Block.key).filter
      (fun name => (Block.ofKey? name).isNone) = [] := by
    rw [List.filter_eq_nil_iff]
    intro name member
    rcases List.mem_map.mp member with ⟨block, _, same⟩
    rw [← same, Block.ofKey?_key]
    exact Bool.false_ne_true
  have unknown : selector.extra.filter (fun name => (Block.ofKey? name).isNone) =
      selector.extra := by
    rw [List.filter_eq_self]
    intro name member
    rw [selector.extra_unknown name member]
    rfl
  rw [unknownNames, names, List.filter_append, known, unknown, List.nil_append,
    firstOccurrences_of_nodup selector.extra_nodup]

theorem ofNames_names (selector : Selector) : ofNames selector.names = selector := by
  have sameIncludes : (ofNames selector.names).includes = selector.includes := by
    funext block
    apply Bool.eq_iff_iff.mpr
    exact List.contains_iff_mem.trans key_mem_names
  rw [ext_iff, blocks, blocks, sameIncludes]
  exact ⟨rfl, unknownNames_names selector⟩

end Selector

namespace Request

/-! ## What is written at a key -/

theorem Form.means_write (form : Form) (value : form.Value) :
    form.Means (form.write value) value := by
  cases form with
  | text =>
      cases value with
      | none => exact .absent
      | some text => exact .text text
  | flag =>
      cases value with
      | none => exact .absent
      | some flag => exact .truth flag
  | event =>
      cases value with
      | none => exact .absent
      | some event => exact .integer event
  | names =>
      have means := MeansNames.names value.names
      rw [Selector.ofNames_names] at means
      exact means

theorem Form.writable_write (form : Form) (value : form.Value) (depth : Nat) :
    ∀ json ∈ form.write value, Json.Writable (depth + 1) json := by
  intro json written
  cases form with
  | text =>
      rcases Option.map_eq_some_iff.mp written with ⟨_, _, rfl⟩
      exact .text _ _
  | flag =>
      rcases Option.map_eq_some_iff.mp written with ⟨_, _, rfl⟩
      exact .truth _ _
  | event =>
      rcases Option.map_eq_some_iff.mp written with ⟨event, _, rfl⟩
      exact .integer _ event.le_toInt (Int.lt_trans event.toInt_lt (by decide))
  | names =>
      cases written
      apply Json.Writable.list
      intro item member
      rcases List.mem_map.mp member with ⟨_, _, rfl⟩
      exact .text _ _

/-! ## The map of a request -/

def slots (request : Request) : List (String × Option Json) :=
  RequiredField.all.map (fun field => (field.key, some (.text (request.required field)))) ++
    OptionalField.all.map fun field => (field.key, field.form.write (request.value field))

theorem distinct_slots (request : Request) : (request.slots.map Prod.fst).Nodup := nodup_keys

theorem required_mem_slots (request : Request) (field : RequiredField) :
    (field.key, some (.text (request.required field))) ∈ request.slots :=
  List.mem_append_left _ (List.mem_map.mpr ⟨field, field.mem_all, rfl⟩)

theorem optional_mem_slots (request : Request) (field : OptionalField) :
    (field.key, field.form.write (request.value field)) ∈ request.slots :=
  List.mem_append_right _ (List.mem_map.mpr ⟨field, field.mem_all, rfl⟩)

theorem toPairs_eq_flatMap (request : Request) :
    request.toPairs = request.slots.flatMap fun slot => optional slot.1 slot.2 := by
  simp [toPairs, slots, writeText, writeFlag, optional, RequiredField.all, RequiredField.key,
    required, OptionalField.all, OptionalField.key, OptionalField.form, Form.write, value]

theorem mem_toPairs {request : Request} {key : String} {value : Json} :
    (key, value) ∈ request.toPairs ↔ (key, some value) ∈ request.slots := by
  rw [toPairs_eq_flatMap, List.mem_flatMap]
  constructor
  · rintro ⟨⟨name, content⟩, inSlots, written⟩
    rcases List.mem_map.mp written with ⟨found, inContent, same⟩
    rcases Prod.mk.inj same with ⟨rfl, rfl⟩
    rw [← Option.mem_toList.mp inContent]
    exact inSlots
  · intro inSlots
    exact ⟨_, inSlots, List.mem_map.mpr ⟨value, Option.mem_toList.mpr rfl, rfl⟩⟩

theorem get?_toMembers {request : Request} {key : String} {content : Option Json}
    (slot : (key, content) ∈ request.slots) : request.toMembers.get? key = content := by
  have only {other : Option Json} (otherSlot : (key, other) ∈ request.slots) : other = content :=
    (Prod.mk.inj (List.inj_on_of_nodup_map request.distinct_slots otherSlot slot rfl)).2
  cases content with
  | none =>
      apply Json.Members.get?_ofList_eq_none
      intro value written
      exact nomatch only (mem_toPairs.mp written)
  | some value =>
      apply Json.Members.get?_ofList_eq_some (mem_toPairs.mpr slot)
      intro other written
      exact Option.some.inj (only (mem_toPairs.mp written))

theorem checkRequired_toMembers (request : Request) (field : RequiredField) :
    checkRequired request.toMembers field =
      if Text.isBlankText (request.required field) then .error (.missing field)
      else .ok (request.required field) := by
  rw [checkRequired, get?_toMembers (request.required_mem_slots field)]

theorem OptionalField.read_toMembers (request : Request) (field : OptionalField) :
    field.read request.toMembers = .ok (request.value field) := by
  apply Form.read_of_means
  rw [get?_toMembers (request.optional_mem_slots field)]
  exact field.form.means_write (request.value field)

theorem writable_toMembers (request : Request) (depth : Nat) :
    Json.Writable (depth + 2) (.map request.toMembers) := by
  apply Json.writable_ofList
  rintro ⟨key, value⟩ member
  rcases List.mem_append.mp (mem_toPairs.mp member) with ofRequired | ofOptional
  · rcases List.mem_map.mp ofRequired with ⟨_, _, same⟩
    cases same
    exact .text _ _
  · rcases List.mem_map.mp ofOptional with ⟨field, _, same⟩
    exact field.form.writable_write (request.value field) depth value (Prod.mk.inj same).2

/-! ## Blank fields -/

theorem firstBlank?_eq_none_iff (request : Request) :
    request.firstBlank? = none ↔
      ∀ field, Text.isBlankText (request.required field) = false := by
  rw [firstBlank?, List.find?_eq_none]
  constructor
  · intro filled field
    simpa using filled field field.mem_all
  · intro filled field _
    simp [filled field]

/-! ## Whole requests -/

theorem ofMembers_of_filled {request : Request} (filled : request.firstBlank? = none) :
    ofMembers request.toMembers = .ok request := by
  apply ofMembers_eq_ok_iff.mpr
  constructor
  · intro field
    rw [checkRequired_toMembers, request.firstBlank?_eq_none_iff.mp filled field]
    rfl
  · exact OptionalField.read_toMembers request

theorem ofMembers_of_blank {request : Request} {field : RequiredField}
    (blank : request.firstBlank? = some field) :
    ofMembers request.toMembers = .error (.missing field) := by
  rcases List.find?_eq_some_iff_append.mp blank with ⟨isBlank, before, after, order, filled⟩
  -- The fields are checked in the order in which the first blank one is looked for.
  have first : RequiredField.all.findSome?
      (fun field => fault? (checkRequired request.toMembers field)) =
        some (.missing field) := by
    refine List.findSome?_eq_some_iff.mpr ⟨before, field, after, order, ?_, ?_⟩
    · rw [checkRequired_toMembers, if_pos isBlank]
      rfl
    · intro earlier member
      have notBlank := filled earlier member
      rw [checkRequired_toMembers, if_neg (by simpa using notBlank)]
      rfl
  rw [← fault?_eq_some_iff, fault?_ofMembers, first]
  rfl

end Request

end ViewerLogin
